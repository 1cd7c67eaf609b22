import Veyra.Application.Documents
import Veyra.Application.Projection
import Veyra.Application.RoutingSnapshot
import Veyra.Lib.Utf16

/-!
# Veyra.Frontend.PoolPreview

The members of a pool as the dialog of the interface shows them, against those that the core
will use.

The interface has the nodes and the sources as strings of a script, puts the sources in a map by
their provider and filters the nodes; `resolve_pool_members` unites what the sources admit.  The
filters agree on every text (`nodeMatchesFilter_eq`), and so does the rest where a provider has
one source: of several sources the map keeps the last.
-/

namespace Veyra.Frontend

open Check ProxyRouting Utf16

/-! ## The preview -/

structure ShownNode where
  id : List UInt16
  providerId : List UInt16
  name : List UInt16
  protocol : ProxyProtocol

structure ShownFilter where
  regions : List (List UInt16)
  protocols : List ProxyProtocol
  includeKeywords : List (List UInt16)
  excludeKeywords : List (List UInt16)
  includeNodeIds : List (List UInt16)
  excludeNodeIds : List (List UInt16)

structure ShownSource where
  providerId : List UInt16
  filter : ShownFilter

def nodeMatchesFilter (node : ShownNode) (filter : ShownFilter) : Bool :=
  let name := asciiLower node.name
  let found := fun value => includes name (asciiLower value)
  (filter.regions.isEmpty || filter.regions.any found) &&
    (filter.protocols.isEmpty || filter.protocols.contains node.protocol) &&
    (filter.includeKeywords.isEmpty || filter.includeKeywords.all found) &&
    (!filter.excludeKeywords.any found) &&
    (filter.includeNodeIds.isEmpty || filter.includeNodeIds.contains node.id) &&
    !filter.excludeNodeIds.contains node.id

/-- `new Map(entries)`, then `get`: the last entry with a key counts. -/
def mapGet {κ α : Type} [BEq κ] (entries : List (κ × α)) (key : κ) : Option α :=
  entries.reverse.lookup key

def filterPoolNodes (nodes : List ShownNode) (sources : List ShownSource) : List ShownNode :=
  let filters := sources.map fun source => (source.providerId, source.filter)
  nodes.filter fun node => (mapGet filters node.providerId).any (nodeMatchesFilter node)

/-! ## What the interface has -/

def ShownNode.of (n : NodeSnapshot) : ShownNode :=
  { id := units n.id, providerId := units n.providerId, name := units n.name
    protocol := n.protocol }

def ShownFilter.of (filter : NodeFilterDto) : ShownFilter :=
  { regions := filter.regions.map units
    protocols := filter.protocols
    includeKeywords := filter.includeKeywords.map units
    excludeKeywords := filter.excludeKeywords.map units
    includeNodeIds := filter.includeNodeIds.map units
    excludeNodeIds := filter.excludeNodeIds.map units }

def ShownSource.of (source : PoolSourceDto) : ShownSource :=
  { providerId := units source.providerId, filter := .of source.filter }

/-- The node snapshots of a state. -/
def shownNodes (s : AppState) : List ShownNode :=
  s.nodes.map fun n => .of ⟨n.id.val, n.providerId.val, n.name, n.protocol⟩

/-- The preview of some sources over a state has the members of a pool. -/
def PreviewAgrees (s : AppState) (sources : List ShownSource) (pool : NodePool) : Prop :=
  ∀ id, id ∈ (filterPoolNodes (shownNodes s) sources).map (·.id) ↔
    id ∈ (s.resolvePoolMembers pool).map fun id => units id.val

/-! ## One filter -/

theorem contains_units {α : Type} [DecidableEq α] {f : α → String} (hf : Function.Injective f)
    (xs : List α) (a : α) :
    ((xs.map f).map units).contains (units (f a)) = xs.contains a := by
  rw [Bool.eq_iff_iff, List.contains_iff_mem, List.contains_iff_mem, List.map_map]
  exact List.mem_map_of_injective fun _ _ h => hf (units_inj h)

/-- The filters of both sides admit the same nodes. -/
theorem nodeMatchesFilter_eq (n : ProxyNode) (filter : NodeFilter) :
    nodeMatchesFilter (.of ⟨n.id.val, n.providerId.val, n.name, n.protocol⟩) (.of (.of filter)) =
      filter.admits n := by
  have hid : Function.Injective NodeId.val := fun a b h => by
    cases a
    cases b
    exact congrArg NodeId.mk h
  simp only [nodeMatchesFilter, ShownNode.of, ShownFilter.of, NodeFilterDto.of, NodeFilter.admits,
    List.isEmpty_map, List.any_map, List.all_map, Function.comp_def, asciiLower_units,
    includes_units, contains_units hid]

/-! ## All sources -/

/-- The source that the map keeps for a provider. -/
def lastSource (sources : List PoolSource) (providerId : ProviderId) : Option PoolSource :=
  sources.reverse.find? (·.providerId = providerId)

theorem mapGet_shown (sources : List PoolSource) (providerId : ProviderId) :
    mapGet ((sources.map fun source => ShownSource.of (.of source)).map fun source =>
        (source.providerId, source.filter)) (units providerId.val) =
      (lastSource sources providerId).map fun source => .of (.of source.filter) := by
  rw [mapGet, lastSource, List.map_map, ← List.map_reverse]
  induction sources.reverse with
  | nil => rfl
  | cons source rest ih =>
    rw [List.map_cons, Function.comp_apply, List.lookup_cons, List.find?_cons]
    by_cases hid : source.providerId = providerId
    · have hkey : (units providerId.val == (ShownSource.of (.of source)).providerId) = true := by
        rw [beq_iff_eq, ← hid]
        rfl
      rw [hkey, decide_eq_true hid]
      rfl
    · have hkey : (units providerId.val == (ShownSource.of (.of source)).providerId) = false := by
        rw [beq_eq_false_iff_ne]
        exact fun heq => hid (congrArg ProviderId.mk (units_inj heq).symm)
      rw [hkey, decide_eq_false hid]
      exact ih

/-- The preview shows what the last source of each provider admits. -/
theorem mem_filterPoolNodes {s : AppState} {sources : List PoolSource} {id : List UInt16} :
    id ∈ (filterPoolNodes (shownNodes s)
        (sources.map fun source => ShownSource.of (.of source))).map (·.id) ↔
      ∃ n ∈ s.nodes, (lastSource sources n.providerId).any (·.filter.admits n) = true ∧
        units n.id.val = id := by
  have hshown : ∀ n : ProxyNode,
      (mapGet ((sources.map fun source => ShownSource.of (.of source)).map fun source =>
        (source.providerId, source.filter)) (units n.providerId.val)).any
          (nodeMatchesFilter (.of ⟨n.id.val, n.providerId.val, n.name, n.protocol⟩)) =
        (lastSource sources n.providerId).any (·.filter.admits n) := by
    intro n
    rw [mapGet_shown, Option.any_map]
    simp only [nodeMatchesFilter_eq]
  rw [filterPoolNodes, shownNodes, List.filter_map, List.map_map, List.mem_map]
  constructor
  · rintro ⟨n, hn, rfl⟩
    obtain ⟨hmem, hadmits⟩ := List.mem_filter.mp hn
    exact ⟨n, hmem, (hshown n).symm.trans hadmits, rfl⟩
  · rintro ⟨n, hn, hadmits, rfl⟩
    exact ⟨n, List.mem_filter.mpr ⟨hn, (hshown n).trans hadmits⟩, rfl⟩

theorem lastSource_mem {sources : List PoolSource} {providerId : ProviderId} {source : PoolSource}
    (h : lastSource sources providerId = some source) :
    source ∈ sources ∧ source.providerId = providerId :=
  ⟨List.mem_reverse.mp (List.mem_of_find?_eq_some h), by simpa using List.find?_some h⟩

/-- Where the providers differ, each source is the last one of its own. -/
theorem lastSource_of_nodup {sources : List PoolSource}
    (hnodup : (sources.map (·.providerId)).Nodup) {source : PoolSource} (hsource : source ∈ sources) :
    lastSource sources source.providerId = some source := by
  have hsome : (lastSource sources source.providerId).isSome = true :=
    List.find?_isSome.mpr ⟨source, List.mem_reverse.mpr hsource, by simp⟩
  obtain ⟨found, hfound⟩ := Option.isSome_iff_exists.mp hsome
  obtain ⟨hmem, hid⟩ := lastSource_mem hfound
  rw [hfound, List.inj_on_of_nodup_map hnodup hmem hsource hid]

/-- No node of the state is admitted by an earlier source of its provider alone. -/
def LastSourcesDecide (s : AppState) (sources : List PoolSource) : Prop :=
  ∀ n ∈ s.nodes, (∃ source ∈ sources, source.admits n = true) →
    (lastSource sources n.providerId).any (·.filter.admits n) = true

theorem lastSourcesDecide_of_nodup (s : AppState) {sources : List PoolSource}
    (hnodup : (sources.map (·.providerId)).Nodup) : LastSourcesDecide s sources := by
  rintro n - ⟨source, hsource, hadmits⟩
  rw [PoolSource.admits, Bool.and_eq_true, decide_eq_true_eq] at hadmits
  rw [hadmits.1, lastSource_of_nodup hnodup hsource]
  exact hadmits.2

/-- The preview and the members are the same, if and only if the last sources decide. -/
theorem previewAgrees_iff {s : AppState} (hs : s.Valid) {sources : List PoolSource}
    {pool : NodePool} (hpool : pool.sources = sources) :
    PreviewAgrees s (sources.map fun source => .of (.of source)) pool ↔
      LastSourcesDecide s sources := by
  subst hpool
  constructor
  · rintro hagrees n hn ⟨source, hsource, hadmits⟩
    have hmember : n.id ∈ s.resolvePoolMembers pool :=
      mem_resolvePoolMembers.mpr ⟨n, hn, List.any_eq_true.mpr ⟨source, hsource, hadmits⟩, rfl⟩
    obtain ⟨other, hother, hshown, hid⟩ := mem_filterPoolNodes.mp
      ((hagrees (units n.id.val)).mpr (List.mem_map.mpr ⟨n.id, hmember, rfl⟩))
    have hsame : other = n :=
      List.inj_on_of_nodup_map hs.nodup_nodes hother hn (units_inj hid)
    rwa [hsame] at hshown
  · intro hdecide id
    rw [mem_filterPoolNodes, List.mem_map]
    constructor
    · rintro ⟨n, hn, hshown, rfl⟩
      obtain ⟨source, hsource, hadmits⟩ := (Option.any_eq_true _ _).mp hshown
      obtain ⟨hmem, hid⟩ := lastSource_mem hsource
      have hadmitted : source.admits n = true := by
        rw [PoolSource.admits, hid, decide_eq_true rfl, hadmits]
        rfl
      exact ⟨n.id, mem_resolvePoolMembers.mpr
        ⟨n, hn, List.any_eq_true.mpr ⟨source, hmem, hadmitted⟩, rfl⟩, rfl⟩
    · rintro ⟨member, hmember, rfl⟩
      obtain ⟨n, hn, hadmits, rfl⟩ := mem_resolvePoolMembers.mp hmember
      exact ⟨n, hn, hdecide n hn (List.any_eq_true.mp hadmits), rfl⟩

/-- A source with the texts of a request as they are. -/
def literalSource (source : PoolSourceDto) : PoolSource :=
  { providerId := ⟨source.providerId⟩
    filter :=
      { regions := source.filter.regions
        protocols := source.filter.protocols
        includeKeywords := source.filter.includeKeywords
        excludeKeywords := source.filter.excludeKeywords
        includeNodeIds := source.filter.includeNodeIds.map NodeId.mk
        excludeNodeIds := source.filter.excludeNodeIds.map NodeId.mk } }

theorem of_literalSource (source : PoolSourceDto) :
    PoolSourceDto.of (literalSource source) = source := by
  simp [PoolSourceDto.of, NodeFilterDto.of, literalSource, Function.comp_def]

/-- **The pool preview.**  The sources that a request may have give the members of a pool with
these sources, and so do those that are saved, whose texts are trimmed.  For a pool that is stored
the preview has its members if and only if the last source of each provider decides. -/
theorem pool_preview_iff (s : AppState) (hs : s.Valid) :
    (∀ values : List PoolSourceDto, validateSources values = .ok () → ∀ pool : NodePool,
      (pool.sources = values.map literalSource → PreviewAgrees s (values.map .of) pool) ∧
      (pool.sources = values.map PoolSourceDto.toSource →
        PreviewAgrees s (values.map fun value => .of (.of value.toSource)) pool)) ∧
    ∀ pool : NodePool,
      PreviewAgrees s (pool.sources.map fun source => .of (.of source)) pool ↔
        LastSourcesDecide s pool.sources := by
  refine ⟨fun values hvalid pool => ?_, fun pool => previewAgrees_iff hs rfl⟩
  obtain ⟨hchecked, -⟩ := ok_seq.mp hvalid
  have hnodup : (values.map (·.providerId)).Nodup := by
    simpa using (Bool.or_eq_false_iff.mp (reject_eq_ok.mp hchecked)).2
  have hproviders : ∀ f : PoolSourceDto → PoolSource,
      (∀ value, (f value).providerId = ⟨value.providerId⟩) →
      ((values.map f).map (·.providerId)).Nodup := by
    intro f hf
    have hmap : (values.map f).map (·.providerId) =
        (values.map (·.providerId)).map ProviderId.mk := by
      rw [List.map_map, List.map_map]
      exact List.map_congr_left fun value _ => hf value
    rw [hmap]
    exact hnodup.map fun _ _ h => ProviderId.mk.inj h
  constructor
  · intro hpool
    have hagrees := (previewAgrees_iff hs hpool).mpr
      (lastSourcesDecide_of_nodup s (hproviders _ fun _ => rfl))
    rw [List.map_map] at hagrees
    simpa only [Function.comp_def, of_literalSource] using hagrees
  · intro hpool
    have hagrees := (previewAgrees_iff hs hpool).mpr
      (lastSourcesDecide_of_nodup s (hproviders _ fun _ => rfl))
    rwa [List.map_map] at hagrees

/-- Two subscriptions with one node each, `office` and `home`, and a pool over both. -/
def pooledHome (sources : List PoolSource) : AppState :=
  { importCandidate socksImport [2] 1000 (importCandidate socksImport [1] 1000 .empty) with
    nodes := [socksNodeOf "provider-01" "node-00be45e343119ef4",
      { socksNodeOf "provider-02" "node-00be45e343119ef5" with name := "home" }]
    pools := [{ id := ⟨"pool-03"⟩, name := "work", kind := .custom, enabled := true, sources
                selection := .manual none }] }

/-- A request for both: one keyword is in other letters and not trimmed, one keeps nodes out. -/
def pooledRequest : List PoolSourceDto :=
  [⟨"provider-01", ⟨[], [.socks], [" OFF "], [], [], []⟩⟩,
   ⟨"provider-02", ⟨[], [], [], ["office"], ["node-00be45e343119ef5"], []⟩⟩]

/-- The dialog shows both nodes, and both are used. -/
theorem pool_preview_iff_request :
    validateSources pooledRequest = .ok () ∧
      ∃ pool ∈ (pooledHome (pooledRequest.map PoolSourceDto.toSource)).pools,
        (pooledHome (pooledRequest.map PoolSourceDto.toSource)).resolvePoolMembers pool =
          [⟨"node-00be45e343119ef4"⟩, ⟨"node-00be45e343119ef5"⟩] ∧
        PreviewAgrees (pooledHome (pooledRequest.map PoolSourceDto.toSource))
          (pooledRequest.map fun value => .of (.of value.toSource)) pool ∧
        PreviewAgrees (pooledHome (pooledRequest.map PoolSourceDto.toSource))
          (pool.sources.map fun source => .of (.of source)) pool := by
  have hvalid : (pooledHome (pooledRequest.map PoolSourceDto.toSource)).Valid :=
    AppState.validate_eq_ok.mp (by decide +kernel)
  have hsources : validateSources pooledRequest = .ok () := by decide +kernel
  obtain ⟨hrequest, hstored⟩ := pool_preview_iff _ hvalid
  exact ⟨hsources, _, List.mem_singleton_self _, by decide +kernel,
    (hrequest pooledRequest hsources _).2 rfl,
    (hstored _).mpr (lastSourcesDecide_of_nodup _ (by decide))⟩

/-- A source that looks for a word in the names. -/
def keywordSource (keyword : String) : PoolSource :=
  { providerId := ⟨"provider-01"⟩, filter := { NodeFilter.default with includeKeywords := [keyword] } }

/-- A pool over one node, `office`. -/
def pooledOffice (sources : List PoolSource) : AppState :=
  { importCandidate socksImport [1] 1000 .empty with
    nodes := [socksNodeOf "provider-01" "node-00be45e343119ef4"]
    pools := [{ id := ⟨"pool-02"⟩, name := "work", kind := .custom, enabled := true, sources
                selection := .manual none }] }

/-- Two sources of one provider: the core uses the node, and the preview does not show it. -/
theorem preview_of_two_sources :
    ∃ s : AppState, s.Valid ∧ ∃ pool ∈ s.pools,
      ¬ PreviewAgrees s (pool.sources.map fun source => .of (.of source)) pool := by
  have hvalid : (pooledOffice [keywordSource "OFF", keywordSource "home"]).Valid :=
    AppState.validate_eq_ok.mp rfl
  refine ⟨_, hvalid, _, List.mem_singleton_self _, ?_⟩
  rw [previewAgrees_iff hvalid rfl]
  intro hdecide
  have hshown := hdecide _ (List.mem_singleton_self _) ⟨_, List.mem_cons_self, rfl⟩
  cases hshown

end Veyra.Frontend
