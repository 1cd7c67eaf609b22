import Veyra.Singbox.Compiler

/-!
# Veyra.Singbox.Closed

Every document that the compiler lets out is closed: tags are distinct, groups
have emitted nodes as members, rules lead to outbounds that exist, and the
fence of the WireGuard endpoints comes before every rule of the user.

`Document.validate_eq_ok` says what `validate` decides, without its loops.
-/

namespace Veyra

open Check

/-! ## What the loops decide -/

/-- The tag of an outbound as that of a node. -/
def CoreOutbound.nodeTags : CoreOutbound → List String
  | .node n => [n.tag]
  | _ => []

/-- The tag of an outbound as that of a group. -/
def CoreOutbound.poolTags : CoreOutbound → List String
  | .selector pool => [pool.tag]
  | .urltest pool => [pool.tag]
  | _ => []

def CoreOutbound.isDirect : CoreOutbound → Bool
  | .direct _ => true
  | _ => false

def CoreOutbound.isBlock : CoreOutbound → Bool
  | .block _ => true
  | _ => false

/-- An outbound that the loop over the outbounds lets pass. -/
def CoreOutbound.Accepted : CoreOutbound → Prop
  | .node n => ∃ node, n.domain = .ok node ∧ validateNode node = .ok ()
  | .direct tag => tag = "direct"
  | .block tag => tag = "block"
  | .selector pool => validTag pool.tag "pool-" = true
  | .urltest pool => validTag pool.tag "pool-" = true

/-- An endpoint that the loop over the endpoints lets pass. -/
structure WireGuardEndpoint.Accepted (endpoint : WireGuardEndpoint) : Prop where
  kind : endpoint.kind = "wireguard"
  system : endpoint.system = false
  tag : validTag endpoint.tag "node-" = true
  peer : ∃ peer, endpoint.peer = .ok peer ∧ validateNode (endpoint.domain peer) = .ok ()

/-- The collection after an outbound. -/
def Scan.add (scan : Scan) (outbound : CoreOutbound) : Scan :=
  { tags := outbound.tag :: scan.tags
    nodeTags := outbound.nodeTags ++ scan.nodeTags
    poolTags := outbound.poolTags ++ scan.poolTags
    directCount := scan.directCount + outbound.isDirect.toNat
    blockCount := scan.blockCount + outbound.isBlock.toNat }

/-- The collection after an endpoint. -/
def Scan.addEndpoint (scan : Scan) (endpoint : WireGuardEndpoint) : Scan :=
  { scan with tags := endpoint.tag :: scan.tags, nodeTags := endpoint.tag :: scan.nodeTags }

/-- What an outbound that is no node does to the collection. -/
theorem Scan.terminal_eq_ok {scan scan' : Scan} {o : CoreOutbound} (ho : o.nodeTags = []) :
    Scan.terminal { scan with tags := o.tag :: scan.tags } o = .ok scan' ↔
      o.Accepted ∧ scan' = scan.add o := by
  cases o with
  | node n => cases ho
  | direct tag =>
    simp only [Scan.terminal, ok_seq, reject_eq_ok, bne_eq_false_iff_eq, Except.ok.injEq]
    exact and_congr_right fun _ => eq_comm
  | block tag =>
    simp only [Scan.terminal, ok_seq, reject_eq_ok, bne_eq_false_iff_eq, Except.ok.injEq]
    exact and_congr_right fun _ => eq_comm
  | selector pool =>
    simp only [Scan.terminal, ok_seq, reject_eq_ok, Bool.not_eq_false', Except.ok.injEq]
    exact and_congr_right fun _ => eq_comm
  | urltest pool =>
    simp only [Scan.terminal, ok_seq, reject_eq_ok, Bool.not_eq_false', Except.ok.injEq]
    exact and_congr_right fun _ => eq_comm

/-- An outbound is scanned if its tag is new and it is accepted. -/
theorem Scan.outbound_eq_ok {scan scan' : Scan} {o : CoreOutbound} :
    scan.outbound o = .ok scan' ↔ o.tag ∉ scan.tags ∧ o.Accepted ∧ scan' = scan.add o := by
  rw [Scan.outbound, ok_seq, reject_eq_ok, List.contains_eq_mem, decide_eq_false_iff_not]
  refine and_congr_right fun _ => ?_
  cases o with
  | node n =>
    rw [ok_bind]
    constructor
    · rintro ⟨read, hread, h⟩
      obtain ⟨node, hnode, rfl⟩ := map_eq_ok.mp hread
      obtain ⟨hvalid, h⟩ := ok_seq.mp h
      cases h
      exact ⟨⟨node, hnode, hvalid⟩, rfl⟩
    · rintro ⟨⟨node, hnode, hvalid⟩, rfl⟩
      exact ⟨some node, map_eq_ok.mpr ⟨node, hnode, rfl⟩, ok_seq.mpr ⟨hvalid, rfl⟩⟩
  | direct tag =>
    have hother : (CoreOutbound.direct tag).nodeTags = [] := rfl
    exact Scan.terminal_eq_ok hother
  | block tag =>
    have hother : (CoreOutbound.block tag).nodeTags = [] := rfl
    exact Scan.terminal_eq_ok hother
  | selector pool =>
    have hother : (CoreOutbound.selector pool).nodeTags = [] := rfl
    exact Scan.terminal_eq_ok hother
  | urltest pool =>
    have hother : (CoreOutbound.urltest pool).nodeTags = [] := rfl
    exact Scan.terminal_eq_ok hother

/-- So is an endpoint. -/
theorem Scan.endpoint_eq_ok {scan scan' : Scan} {e : WireGuardEndpoint} :
    scan.endpoint e = .ok scan' ↔ e.tag ∉ scan.tags ∧ e.Accepted ∧ scan' = scan.addEndpoint e := by
  rw [Scan.endpoint, ok_seq, reject_eq_ok, ok_bind]
  simp only [Bool.or_eq_false_iff, bne_eq_false_iff_eq, Bool.not_eq_false', List.contains_eq_mem,
    decide_eq_false_iff_not]
  constructor
  · rintro ⟨⟨⟨⟨hkind, hsystem⟩, htag⟩, hnew⟩, peer, hpeer, h⟩
    obtain ⟨hvalid, h⟩ := ok_seq.mp h
    cases h
    exact ⟨hnew, ⟨hkind, hsystem, htag, peer, hpeer, hvalid⟩, rfl⟩
  · rintro ⟨hnew, ⟨hkind, hsystem, htag, peer, hpeer, hvalid⟩, rfl⟩
    exact ⟨⟨⟨⟨hkind, hsystem⟩, htag⟩, hnew⟩, peer, hpeer, ok_seq.mpr ⟨hvalid, rfl⟩⟩

/-- The loop over the outbounds: each is accepted, and no tag comes twice. -/
theorem Scan.outbounds_eq_ok {os : List CoreOutbound} {scan scan' : Scan} :
    scan.outbounds os = .ok scan' ↔
      (∀ o ∈ os, o.Accepted) ∧ (os.map (·.tag)).Nodup ∧ (∀ o ∈ os, o.tag ∉ scan.tags) ∧
      scan' = os.foldl Scan.add scan := by
  have hstep : ∀ (s : Scan) (o : CoreOutbound) (s' : Scan),
      s.outbound o = .ok s' ↔ o.tag ∉ s.tags ∧ o.Accepted ∧ s' = s.add o :=
    fun _ _ _ => Scan.outbound_eq_ok
  have hseen : ∀ (s : Scan) (o : CoreOutbound), (s.add o).tags = o.tag :: s.tags :=
    fun _ _ => rfl
  exact foldlM_fresh hstep hseen

/-- The loop over the endpoints. -/
theorem Scan.endpoints_eq_ok {es : List WireGuardEndpoint} {scan scan' : Scan} :
    scan.endpoints es = .ok scan' ↔
      (∀ e ∈ es, e.Accepted) ∧ (es.map (·.tag)).Nodup ∧ (∀ e ∈ es, e.tag ∉ scan.tags) ∧
      scan' = es.foldl Scan.addEndpoint scan := by
  have hstep : ∀ (s : Scan) (e : WireGuardEndpoint) (s' : Scan),
      s.endpoint e = .ok s' ↔ e.tag ∉ s.tags ∧ e.Accepted ∧ s' = s.addEndpoint e :=
    fun _ _ _ => Scan.endpoint_eq_ok
  have hseen : ∀ (s : Scan) (e : WireGuardEndpoint), (s.addEndpoint e).tags = e.tag :: s.tags :=
    fun _ _ => rfl
  exact foldlM_fresh hstep hseen

/-! ## What the loops collect -/

/-- What is scanned of a list of outbounds. -/
theorem Scan.foldl_add (os : List CoreOutbound) (scan : Scan) :
    os.foldl Scan.add scan =
      { tags := os.reverse.map (·.tag) ++ scan.tags
        nodeTags := os.reverse.flatMap (·.nodeTags) ++ scan.nodeTags
        poolTags := os.reverse.flatMap (·.poolTags) ++ scan.poolTags
        directCount := scan.directCount + os.countP (·.isDirect)
        blockCount := scan.blockCount + os.countP (·.isBlock) } := by
  induction os generalizing scan with
  | nil => simp
  | cons o os ih =>
    rw [List.foldl_cons, ih]
    simp only [Scan.add, List.reverse_cons, List.map_append, List.map_cons, List.map_nil,
      List.flatMap_append, List.flatMap_cons, List.flatMap_nil, List.append_nil,
      List.append_assoc, List.singleton_append, List.countP_cons, Scan.mk.injEq, true_and]
    constructor
    · cases o.isDirect
      · simp
      · simp
        omega
    · cases o.isBlock
      · simp
      · simp
        omega

/-- What is scanned of a list of endpoints. -/
theorem Scan.foldl_addEndpoint (es : List WireGuardEndpoint) (scan : Scan) :
    es.foldl Scan.addEndpoint scan =
      { scan with tags := es.reverse.map (·.tag) ++ scan.tags
                  nodeTags := es.reverse.map (·.tag) ++ scan.nodeTags } := by
  induction es generalizing scan with
  | nil => simp
  | cons e es ih =>
    rw [List.foldl_cons, ih]
    simp [Scan.addEndpoint]

/-- What the two loops collect from a document. -/
def Document.scan (d : Document) : Scan :=
  d.endpoints.foldl Scan.addEndpoint (d.outbounds.foldl Scan.add {})

/-- The document has an outbound with the tag. -/
def Document.HasOutbound (d : Document) (tag : String) : Prop := ∃ o ∈ d.outbounds, o.tag = tag

/-- The tag is that of an emitted node: an outbound or an endpoint. -/
def Document.EmitsNode (d : Document) (tag : String) : Prop :=
  (∃ n, CoreOutbound.node n ∈ d.outbounds ∧ n.tag = tag) ∨ ∃ e ∈ d.endpoints, e.tag = tag

/-- The tag is that of a group. -/
def Document.EmitsPool (d : Document) (tag : String) : Prop := ∃ o ∈ d.outbounds, tag ∈ o.poolTags

/-- A node tag is the tag of a node. -/
theorem CoreOutbound.mem_nodeTags {o : CoreOutbound} {tag : String} :
    tag ∈ o.nodeTags ↔ ∃ n, o = .node n ∧ n.tag = tag := by
  cases o <;> simp [CoreOutbound.nodeTags, eq_comm]

/-- A pool tag is the tag of its outbound. -/
theorem CoreOutbound.tag_of_mem_poolTags {o : CoreOutbound} {tag : String}
    (h : tag ∈ o.poolTags) : o.tag = tag := by
  cases o <;> simp_all [CoreOutbound.poolTags, CoreOutbound.tag]

/-- The scan knows the nodes that are emitted. -/
theorem Document.mem_scan_nodeTags {d : Document} {tag : String} :
    tag ∈ d.scan.nodeTags ↔ d.EmitsNode tag := by
  rw [Document.scan, Scan.foldl_addEndpoint, Scan.foldl_add, Document.EmitsNode]
  simp only [List.append_nil, List.mem_append, List.mem_map, List.mem_reverse, List.mem_flatMap,
    CoreOutbound.mem_nodeTags]
  constructor
  · rintro (⟨e, he, htag⟩ | ⟨o, ho, n, rfl, htag⟩)
    · exact .inr ⟨e, he, htag⟩
    · exact .inl ⟨n, ho, htag⟩
  · rintro (⟨n, hn, htag⟩ | ⟨e, he, htag⟩)
    · exact .inr ⟨_, hn, n, rfl, htag⟩
    · exact .inl ⟨e, he, htag⟩

/-- And the pools. -/
theorem Document.mem_scan_poolTags {d : Document} {tag : String} :
    tag ∈ d.scan.poolTags ↔ d.EmitsPool tag := by
  rw [Document.scan, Scan.foldl_addEndpoint, Scan.foldl_add, Document.EmitsPool]
  simp

theorem Document.scan_directCount (d : Document) :
    d.scan.directCount = d.outbounds.countP (·.isDirect) := by
  rw [Document.scan, Scan.foldl_addEndpoint, Scan.foldl_add]
  exact Nat.zero_add _

theorem Document.scan_blockCount (d : Document) :
    d.scan.blockCount = d.outbounds.countP (·.isBlock) := by
  rw [Document.scan, Scan.foldl_addEndpoint, Scan.foldl_add]
  exact Nat.zero_add _

/-! ## What `validate` decides -/

/-- What a document that passes `validate` satisfies. -/
structure Document.Accepted (env : CompilerEnv) (d : Document) (bound : Bool) : Prop where
  standard : d.isStandard bound = true
  outbounds : ∀ o ∈ d.outbounds, o.Accepted
  endpoints : ∀ e ∈ d.endpoints, e.Accepted
  tags : (d.outbounds.map (·.tag) ++ d.endpoints.map (·.tag)).Nodup
  direct : d.outbounds.countP (·.isDirect) = 1
  block : d.outbounds.countP (·.isBlock) = 1
  nodes : d.scan.nodeTags ≠ []
  final : validOutbound d.scan.poolTags d.route.finalOutbound = true
  groups : ∀ o ∈ d.outbounds, validateGroup env d.scan.nodeTags o = .ok ()
  rules : ∃ user, d.userRules (Sorted.sortBy (fun tag => tag) (d.endpoints.map (·.tag))) = .ok user ∧
    ∀ rule ∈ user, validateRule d.scan.poolTags rule = .ok ()

/-- `validate` accepts exactly these documents. -/
theorem Document.validate_eq_ok {env : CompilerEnv} {d : Document} {bound : Bool} :
    d.validate env bound = .ok () ↔ d.Accepted env bound := by
  have htags : (d.outbounds.map (·.tag)).Nodup ∧ (d.endpoints.map (·.tag)).Nodup ∧
      (∀ e ∈ d.endpoints, e.tag ∉ (d.outbounds.foldl Scan.add {}).tags) ↔
      (d.outbounds.map (·.tag) ++ d.endpoints.map (·.tag)).Nodup := by
    rw [List.nodup_append, Scan.foldl_add]
    simp only [List.append_nil, List.mem_map, List.mem_reverse, ne_eq, not_exists, not_and,
      forall_exists_index, and_imp, forall_apply_eq_imp_iff₂]
    refine and_congr_right fun _ => and_congr_right fun _ => ?_
    constructor
    · intro h o ho e he htag
      exact h e he o ho htag
    · intro h e he o ho htag
      exact h o ho e he htag
  rw [Document.validate, ok_seq, ok_bind]
  constructor
  · rintro ⟨hstandard, scan, hscan, h⟩
    obtain ⟨scan', hscan', h⟩ := ok_bind.mp h
    obtain ⟨houtbounds, hnodup, -, rfl⟩ := Scan.outbounds_eq_ok.mp hscan
    obtain ⟨hendpoints, hnodup', hnew, rfl⟩ := Scan.endpoints_eq_ok.mp hscan'
    obtain ⟨hcounts, h⟩ := ok_seq.mp h
    obtain ⟨hgroups, h⟩ := ok_seq.mp h
    obtain ⟨user, huser, hrules⟩ := ok_bind.mp h
    rw [reject_eq_ok] at hstandard hcounts
    simp only [Bool.or_eq_false_iff, bne_eq_false_iff_eq, Bool.not_eq_false'] at hstandard hcounts
    obtain ⟨⟨⟨hdirect, hblock⟩, hnodes⟩, hfinal⟩ := hcounts
    exact {
      standard := hstandard
      outbounds := houtbounds
      endpoints := hendpoints
      tags := htags.mp ⟨hnodup, hnodup', hnew⟩
      direct := d.scan_directCount ▸ hdirect
      block := d.scan_blockCount ▸ hblock
      nodes := List.isEmpty_eq_false_iff.mp hnodes
      final := hfinal
      groups := each_eq_ok.mp hgroups
      rules := ⟨user, huser, each_eq_ok.mp hrules⟩ }
  · intro h
    obtain ⟨hnodup, hnodup', hnew⟩ := htags.mpr h.tags
    obtain ⟨user, huser, hrules⟩ := h.rules
    refine ⟨by simpa using h.standard, _, Scan.outbounds_eq_ok.mpr
      ⟨h.outbounds, hnodup, by simp, rfl⟩, ok_bind.mpr ⟨_, Scan.endpoints_eq_ok.mpr
      ⟨h.endpoints, hnodup', hnew, rfl⟩, ok_seq.mpr ⟨?_, ok_seq.mpr
      ⟨each_eq_ok.mpr h.groups, ok_bind.mpr ⟨user, huser, each_eq_ok.mpr hrules⟩⟩⟩⟩⟩
    rw [reject_eq_ok]
    simp only [Bool.or_eq_false_iff, bne_eq_false_iff_eq, Bool.not_eq_false']
    exact ⟨⟨⟨d.scan_directCount ▸ h.direct, d.scan_blockCount ▸ h.block⟩,
      List.isEmpty_eq_false_iff.mpr h.nodes⟩, h.final⟩

/-! ## Closed documents -/

/-- The members of a group. -/
def CoreOutbound.members : CoreOutbound → List String
  | .selector pool => pool.outbounds
  | .urltest pool => pool.outbounds
  | _ => []

/-- A rule of the user: it tests no ingress, takes no action, and leads to an outbound. -/
def CoreRule.IsUser (rule : CoreRule) : Prop :=
  rule.inbound = none ∧ rule.action = none ∧ rule.outbound.isSome

/-- A document in which every reference has a target and the endpoints are fenced off. -/
structure Document.Closed (d : Document) : Prop where
  noInbounds : d.inbounds = []
  tags : (d.outbounds.map (·.tag) ++ d.endpoints.map (·.tag)).Nodup
  members : ∀ o ∈ d.outbounds, ∀ tag ∈ o.members, d.EmitsNode tag
  defaults : ∀ pool, CoreOutbound.selector pool ∈ d.outbounds →
    ∀ tag, pool.default = some tag → tag ∈ pool.outbounds
  ruleOutbounds : ∀ rule ∈ d.route.rules, ∀ tag, rule.outbound = some tag → d.HasOutbound tag
  finalOutbound : d.HasOutbound d.route.finalOutbound
  direct : d.outbounds.countP (·.isDirect) = 1 ∧ CoreOutbound.direct "direct" ∈ d.outbounds
  block : d.outbounds.countP (·.isBlock) = 1 ∧ CoreOutbound.block "block" ∈ d.outbounds
  fenced : d.endpoints ≠ [] → ∃ tags user, tags.Perm (d.endpoints.map (·.tag)) ∧
    d.route.rules = CoreRule.reject tags :: user ∧ d.dns.rules = [CoreRule.reject tags] ∧
    ∀ rule ∈ user, rule.IsUser
  unfenced : d.endpoints = [] → d.dns.rules = [] ∧ ∀ rule ∈ d.route.rules, rule.IsUser

/-- A rule that is seen as the fence is the fence. -/
theorem CoreRule.eq_reject {rule : CoreRule} {tags : List String}
    (h : rule.isIngressReject tags = true) : rule = CoreRule.reject tags := by
  simp only [CoreRule.isIngressReject, Bool.and_eq_true, decide_eq_true_eq, beq_iff_eq,
    Option.isNone_iff_eq_none] at h
  obtain ⟨⟨⟨hinbound, haction⟩, houtbound⟩, hcount⟩ := h
  obtain ⟨inbound, action, outbound, domain, suffix, process, cidr, port, network⟩ := rule
  simp only [CoreRule.matcherCount, List.length_eq_zero_iff, List.filter_eq_nil_iff,
    List.mem_cons, List.not_mem_nil, or_false, forall_eq_or_imp, forall_eq, id_eq,
    Bool.not_eq_true, Option.isSome_eq_false_iff, Option.isNone_iff_eq_none] at hcount
  simp only [CoreRule.reject, CoreRule.mk.injEq]
  exact ⟨hinbound, haction, houtbound, hcount⟩

/-- The rules of the user, as `validate` finds them. -/
theorem Document.userRules_eq_ok {d : Document} {ingress : List String} {user : List CoreRule}
    (h : d.userRules ingress = .ok user) :
    (ingress = [] ∧ d.dns.rules = [] ∧ d.route.rules = user) ∨
    (ingress ≠ [] ∧ d.dns.rules = [CoreRule.reject ingress] ∧
      d.route.rules = CoreRule.reject ingress :: user) := by
  rw [Document.userRules] at h
  split at h
  · next hempty =>
    obtain ⟨hdns, h⟩ := ok_seq.mp h
    cases h
    exact .inl ⟨List.isEmpty_iff.mp hempty, by simpa using hdns, rfl⟩
  · next hsome =>
    split at h
    · next dnsRule routeRule rest hdns hroute =>
      obtain ⟨hreject, h⟩ := ok_seq.mp h
      cases h
      rw [reject_eq_ok, Bool.or_eq_false_iff, Bool.not_eq_false', Bool.not_eq_false'] at hreject
      refine .inr ⟨by simpa using hsome, ?_, ?_⟩
      · rw [hdns, CoreRule.eq_reject hreject.1]
      · rw [hroute, CoreRule.eq_reject hreject.2]
    · cases h

namespace Document.Accepted

variable {env : CompilerEnv} {d : Document} {bound : Bool} (h : d.Accepted env bound)
include h

theorem mem_direct : CoreOutbound.direct "direct" ∈ d.outbounds := by
  have hpos : 0 < d.outbounds.countP (·.isDirect) := by
    rw [h.direct]
    omega
  obtain ⟨o, ho, hdirect⟩ := List.countP_pos_iff.mp hpos
  cases o with
  | direct tag =>
    have htag : tag = "direct" := h.outbounds _ ho
    exact htag ▸ ho
  | _ => cases hdirect

theorem mem_block : CoreOutbound.block "block" ∈ d.outbounds := by
  have hpos : 0 < d.outbounds.countP (·.isBlock) := by
    rw [h.block]
    omega
  obtain ⟨o, ho, hblock⟩ := List.countP_pos_iff.mp hpos
  cases o with
  | block tag =>
    have htag : tag = "block" := h.outbounds _ ho
    exact htag ▸ ho
  | _ => cases hblock

/-- A target that `validate` lets pass is the tag of an outbound. -/
theorem hasOutbound {tag : String} (htag : validOutbound d.scan.poolTags tag = true) :
    d.HasOutbound tag := by
  simp only [validOutbound, Bool.or_eq_true, decide_eq_true_eq, List.contains_iff_mem,
    Document.mem_scan_poolTags] at htag
  obtain (rfl | rfl) | ⟨o, ho, hpool⟩ := htag
  · exact ⟨_, h.mem_direct, rfl⟩
  · exact ⟨_, h.mem_block, rfl⟩
  · exact ⟨o, ho, CoreOutbound.tag_of_mem_poolTags hpool⟩

/-- The members of a group are emitted nodes. -/
theorem members {o : CoreOutbound} (ho : o ∈ d.outbounds) {tag : String}
    (htag : tag ∈ o.members) : d.EmitsNode tag := by
  have hvalid : ∀ members, validateMembers members d.scan.nodeTags = .ok () →
      ∀ tag ∈ members, d.EmitsNode tag := by
    intro members hok tag hmem
    obtain ⟨-, hknown⟩ := ok_seq.mp hok
    rw [reject_eq_ok, Bool.or_eq_false_iff, List.any_eq_false] at hknown
    rw [← Document.mem_scan_nodeTags]
    simpa using hknown.1 tag hmem
  have hgroup := h.groups o ho
  cases o with
  | selector pool => exact hvalid _ (ok_seq.mp hgroup).1 tag htag
  | urltest pool => exact hvalid _ (ok_seq.mp hgroup).1 tag htag
  | _ => cases htag

/-- A rule of the user leads to an outbound that exists. -/
theorem userRule {rule : CoreRule} (hrule : validateRule d.scan.poolTags rule = .ok ()) :
    rule.IsUser ∧ ∀ tag, rule.outbound = some tag → d.HasOutbound tag := by
  obtain ⟨hshape, -⟩ := ok_seq.mp hrule
  rw [reject_eq_ok] at hshape
  simp only [Bool.or_eq_false_iff, Option.isSome_eq_false_iff, Option.isNone_iff_eq_none,
    Bool.not_eq_false', Option.any_eq_true] at hshape
  obtain ⟨⟨⟨hinbound, haction⟩, -⟩, target, htarget, hvalid⟩ := hshape
  refine ⟨⟨hinbound, haction, by rw [htarget]; rfl⟩, fun tag htag => ?_⟩
  rw [htarget, Option.some.injEq] at htag
  exact h.hasOutbound (htag ▸ hvalid)

/-- An accepted document is closed. -/
theorem closed : d.Closed := by
  obtain ⟨user, huser, hrules⟩ := h.rules
  have huserRules : ∀ rule ∈ user, rule.IsUser := fun rule hrule =>
    (h.userRule (hrules rule hrule)).1
  have hsorted : (Sorted.sortBy (fun tag => tag) (d.endpoints.map (·.tag))).Perm
      (d.endpoints.map (·.tag)) := Sorted.perm_sortBy _ _
  exact {
    noInbounds := by
      have hstandard := h.standard
      simp only [Document.isStandard, Bool.and_eq_true, List.isEmpty_iff] at hstandard
      exact hstandard.1.1.1.1.1.1
    tags := h.tags
    members := fun o ho tag htag => h.members ho htag
    defaults := by
      intro pool hpool tag htag
      obtain ⟨-, hdefault⟩ := ok_seq.mp (h.groups _ hpool)
      rw [reject_eq_ok, htag] at hdefault
      simpa using hdefault
    ruleOutbounds := by
      intro rule hrule tag htag
      have hknown : ∀ rule ∈ user, ∀ tag, rule.outbound = some tag → d.HasOutbound tag :=
        fun rule hrule => (h.userRule (hrules rule hrule)).2
      rcases Document.userRules_eq_ok huser with ⟨-, -, hroute⟩ | ⟨-, -, hroute⟩
      · exact hknown rule (hroute ▸ hrule) tag htag
      · rw [hroute, List.mem_cons] at hrule
        rcases hrule with rfl | hrule
        · cases htag
        · exact hknown rule hrule tag htag
    finalOutbound := h.hasOutbound h.final
    direct := ⟨h.direct, h.mem_direct⟩
    block := ⟨h.block, h.mem_block⟩
    fenced := by
      intro hendpoints
      rcases Document.userRules_eq_ok huser with ⟨hempty, -⟩ | ⟨-, hdns, hroute⟩
      · rw [Sorted.sortBy_eq_nil, List.map_eq_nil_iff] at hempty
        exact absurd hempty hendpoints
      · exact ⟨_, user, hsorted, hroute, hdns, huserRules⟩
    unfenced := by
      intro hendpoints
      rcases Document.userRules_eq_ok huser with ⟨-, hdns, hroute⟩ | ⟨hsome, -⟩
      · exact ⟨hdns, fun rule hrule => huserRules rule (hroute ▸ hrule)⟩
      · rw [hendpoints] at hsome
        exact absurd rfl hsome }

end Document.Accepted

/-- **Spec.**  A compiled document was assembled from what the loops emitted, and accepted. -/
theorem compile_ok {env : CompilerEnv} {intent : RuntimeIntent} {defaultTarget : RouteTarget}
    {plan : SingBoxPlan} (h : compile env intent defaultTarget = .ok plan) :
    ∃ finalOutbound nodes endpoints groups rules,
      finalTag intent.pools defaultTarget = .ok finalOutbound ∧
      emitNodes (Sorted.sortBy (·.id.val) intent.nodes) = .ok (nodes, endpoints) ∧
      emitPools (Sorted.sortBy (·.id.val) intent.pools) = .ok groups ∧
      emitRoutes (Sorted.sortBy RoutePolicy.key (intent.routes.filter (·.enabled))) = .ok rules ∧
      plan.document = assemble finalOutbound nodes groups endpoints rules ∧
      plan.document.Accepted env false := by
  obtain ⟨finalOutbound, hfinal, h⟩ := ok_bind.mp h
  obtain ⟨⟨nodes, endpoints⟩, hnodes, h⟩ := ok_bind.mp h
  obtain ⟨groups, hgroups, h⟩ := ok_bind.mp h
  obtain ⟨rules, hrules, h⟩ := ok_bind.mp h
  obtain ⟨hvalid, h⟩ := ok_seq.mp h
  cases h
  exact ⟨finalOutbound, nodes, endpoints, groups, rules, hfinal, hnodes, hgroups, hrules, rfl,
    Document.validate_eq_ok.mp hvalid⟩

/-- The bytes of a final configuration read back as an accepted document. -/
theorem SingBoxPlan.finalize_ok {Bytes Value : Type} [DecidableEq Value] {env : CompilerEnv}
    {text : DocumentText Bytes Value} {plan : SingBoxPlan} {secret : String} {bytes : Bytes}
    (h : plan.finalize env text secret = .ok bytes) :
    ∃ d, text.fromSlice bytes = some d ∧ d.Accepted env true := by
  obtain ⟨-, h⟩ := ok_seq.mp h
  obtain ⟨written, -, h⟩ := ok_bind.mp h
  obtain ⟨hfinal, h⟩ := ok_seq.mp h
  cases h
  obtain ⟨d, hread, hfinal⟩ := ok_bind.mp hfinal
  obtain ⟨hvalid, -⟩ := ok_seq.mp hfinal
  exact ⟨d, okOr_eq_ok.mp hread, Document.validate_eq_ok.mp hvalid⟩

/-- **Closed documents.**  Whatever the intent, a compiled document is closed, and so is the one
that the bytes of its final configuration hold. -/
theorem compiled_documents_closed {Bytes Value : Type} [DecidableEq Value] (env : CompilerEnv)
    (text : DocumentText Bytes Value) (intent : RuntimeIntent) (defaultTarget : RouteTarget)
    (plan : SingBoxPlan) (h : compile env intent defaultTarget = .ok plan) :
    plan.document.Closed ∧
    ∀ secret bytes, plan.finalize env text secret = .ok bytes →
      ∃ d, text.fromSlice bytes = some d ∧ d.Closed := by
  obtain ⟨-, -, -, -, -, -, -, -, -, -, haccepted⟩ := compile_ok h
  refine ⟨haccepted.closed, fun secret bytes hfinal => ?_⟩
  obtain ⟨d, hread, hd⟩ := SingBoxPlan.finalize_ok hfinal
  exact ⟨d, hread, hd.closed⟩

/-- Documents that are their own text. -/
def plainText : DocumentText Document Document := ⟨some, some, some, some⟩

/-- A SOCKS node. -/
def socksNode : ProxyNode :=
  { id := ⟨"s"⟩, providerId := ⟨"p"⟩, name := "s", protocol := .socks, server := "1.2.3.4"
    port := 1080, options := .socks 5 none none, transport := none, tls := none }

/-- A WireGuard node. -/
def wireguardNode : ProxyNode :=
  { id := ⟨"w"⟩, providerId := ⟨"p"⟩, name := "w", protocol := .wireGuard, server := "1.2.3.5"
    port := 51820
    options := .wireGuard "AAAAAAAAAAAAAAAAAAAAAAAAAAAAAAAAAAAAAAAAAAA="
      "AAAAAAAAAAAAAAAAAAAAAAAAAAAAAAAAAAAAAAAAAAA=" none ["10.0.0.2/32"] none none
    transport := none, tls := none }

/-- One pool over both nodes, and a route for a domain. -/
def fencedIntent : RuntimeIntent :=
  { nodes := [wireguardNode, socksNode]
    pools := [{ id := ⟨"a"⟩, members := [⟨"w"⟩, ⟨"s"⟩], selection := .manual (some ⟨"w"⟩) }]
    routes := [{ id := ⟨"r"⟩, name := "r", enabled := true, priority := -1
                 matcher := .domain ["example.org"], target := .direct }] }

theorem compiled_documents_closed_fenced :
    ∃ plan, compile ⟨fun _ => none⟩ fencedIntent (.pool ⟨"a"⟩) = .ok plan ∧
      plan.document.Closed ∧
      ∀ secret bytes, plan.finalize ⟨fun _ => none⟩ plainText secret = .ok bytes →
        ∃ d, plainText.fromSlice bytes = some d ∧ d.Closed := by
  have hok : (compile ⟨fun _ => none⟩ fencedIntent (.pool ⟨"a"⟩)).isOk = true := by decide +kernel
  obtain ⟨plan, hplan⟩ := exists_ok hok
  exact ⟨plan, hplan, compiled_documents_closed ⟨fun _ => none⟩ plainText fencedIntent
    (.pool ⟨"a"⟩) plan hplan⟩

end Veyra
