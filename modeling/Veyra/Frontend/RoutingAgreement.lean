import Veyra.Frontend.RoutingResponses

/-!
# Veyra.Frontend.RoutingAgreement

What routing answers against what the pages accept.

A snapshot is read exactly if it is `Readable`: the texts in it are not empty, its numbers are ones
that a script holds, and no priority is negative.
-/

namespace Veyra.Frontend

open Browser

/-! ## Objects in key order -/

/-- Setting a new member adds its key. -/
theorem setMember_keys {k : String} {v : Json} {ms : List (String × Json)}
    (h : k ∉ ms.map (·.1)) : ((Json.setMember k v ms).map (·.1)).Perm (k :: ms.map (·.1)) := by
  induction ms with
  | nil => exact .refl _
  | cons m ms ih =>
    rw [List.map_cons, List.mem_cons, not_or] at h
    rw [Json.setMember, if_neg h.1]
    split
    · exact .refl _
    · rw [List.map_cons, List.map_cons]
      exact ((ih h.2).cons m.1).trans (.swap k m.1 _)

/-- Sorting the members keeps their keys. -/
theorem ordered_keys {fields : List (String × Json)} (h : (fields.map (·.1)).Nodup) :
    ((Json.ordered fields).map (·.1)).Perm (fields.map (·.1)) := by
  induction fields with
  | nil => exact .refl _
  | cons f fields ih =>
    rw [List.map_cons, List.nodup_cons] at h
    have hrest := ih h.2
    have hnew : f.1 ∉ (Json.ordered fields).map (·.1) := fun hmem => h.1 (hrest.mem_iff.mp hmem)
    exact (setMember_keys hnew).trans (hrest.cons f.1)

/-- An object with the expected keys, in whatever order it is written. -/
theorem exactly_object {keys : List String} {fields : List (String × Json)}
    (hkeys : fields.map (·.1) = keys) (hnodup : keys.Nodup) :
    Decodes (exactly keys (Json.object fields)) True (Json.ordered fields) := by
  subst hkeys
  exact exactly_obj (List.isPerm_iff.mpr (ordered_keys hnodup))

/-- A member is found wherever the sorted object has it. -/
theorem member_object {α : Type} {fields : List (String × Json)} {key : String} {read : Reader α}
    {v : Json} {P : Prop} {a : α} (hlookup : fields.lookup key = some v)
    (h : Decodes (read v) P a) : Decodes (member (Json.ordered fields) key read) P a :=
  member_of ((Json.lookup_ordered fields key).trans hlookup) h

/-- The discriminant stands first before the members are sorted. -/
theorem discriminant_object {key t : String} {fields : List (String × Json)} :
    Decodes (discriminant key (Json.object ((key, .str t) :: fields))) True t := by
  rw [Json.object_eq, discriminant, Json.lookup_ordered, Json.lookup_cons, if_pos rfl]
  exact .of_eq rfl

/-! ## Single values -/

/-- A counter is read if a script holds it. -/
theorem safeNumber_u64 (n : UInt64) :
    Decodes (safeNumber (numberU64 n)) (n.toNat ≤ Browser.maxSafeInteger) (.of n.toNat) := by
  by_cases h : n.toNat ≤ Browser.maxSafeInteger
  · refine (Decodes.of_eq ?_).congr (iff_of_true trivial h)
    have hread : safeInteger (numberU64 n) = some n.toNat := (safeInteger_posInt n).eq_some h
    rw [safeNumber, hread, Option.bind_some, dif_pos h]
    exact congrArg some (Subtype.ext (Nat.min_eq_left h).symm)
  · refine (Decodes.of_none ?_).congr (iff_of_false not_false h)
    have hread : safeInteger (numberU64 n) = none := (safeInteger_posInt n).eq_none h
    rw [safeNumber, hread, Option.bind_none]

/-- A priority is read if it is not negative. -/
theorem safeNumber_i32 (n : Int32) :
    Decodes (safeNumber (Codec.i32.encode n)) (0 ≤ n.toInt) (.of n.toInt.toNat) := by
  have hlow := Int32.le_toInt n
  have hhigh := Int32.toInt_lt n
  change Decodes (safeNumber (Codec.encodeI32 n)) _ _
  rw [Codec.encodeI32]
  by_cases h : n.toInt < 0
  · have hwritten : (Int64.ofInt n.toInt).toInt = n.toInt := by
      rw [Int64.toInt_ofInt_of_le] <;> omega
    have hread : safeInteger (.num (.negInt (Int64.ofInt n.toInt))) = none := by
      rw [safeInteger, integer, Option.bind_some, hwritten, if_neg (by omega)]
    rw [if_pos h]
    refine (Decodes.of_none ?_).congr (iff_of_false not_false (by omega))
    rw [safeNumber, hread, Option.bind_none]
  · have hwritten : (UInt64.ofNat n.toInt.toNat).toNat = n.toInt.toNat := by
      rw [UInt64.toNat_ofNat_of_lt']
      have : UInt64.size = 2 ^ 64 := rfl
      omega
    rw [if_neg h]
    have hsafe : n.toInt.toNat ≤ Browser.maxSafeInteger := by
      rw [Browser.maxSafeInteger]
      omega
    have hread := safeNumber_u64 (UInt64.ofNat n.toInt.toNat)
    rw [hwritten] at hread
    exact hread.congr (iff_of_true hsafe (by omega))

/-- A list of texts is read if none of them is empty. -/
theorem texts_list (values : List String) :
    Decodes (texts ((Codec.list Codec.string).encode values)) (∀ v ∈ values, v ≠ "") values :=
  (arrayOf_map values fun v _ => nonEmptyText_str v).congr_value (List.map_id' values)

/-- Both sides have the same names for the protocols of nodes. -/
theorem protocol_encode (p : ProxyProtocol) :
    Decodes (oneOf protocolNames (RoutingWire.protocol.encode p)) True p := by
  cases p <;> exact oneOf_str rfl

/-- The same for the protocols of a matcher. -/
theorem network_encode (p : NetworkProtocol) :
    Decodes (oneOf [("tcp", NetworkProtocol.tcp), ("udp", .udp)] (RoutingWire.network.encode p)) True
      p := by
  cases p <;> exact oneOf_str rfl

/-- A list of values that are all read. -/
theorem arrayOf_all {α β : Type} {read : Reader α} {write : β → Json} {view : β → α}
    (values : List β) (h : ∀ b, Decodes (read (write b)) True (view b)) :
    Decodes (arrayOf read (.arr (values.map write))) True (values.map view) :=
  (arrayOf_map values fun b _ => h b).congr (iff_true_intro fun _ _ => trivial)

/-! ## Sources and selections -/

/-- The texts of a filter are there. -/
structure FilterReadable (f : ProxyRouting.NodeFilterDto) : Prop where
  regions : ∀ v ∈ f.regions, v ≠ ""
  includeKeywords : ∀ v ∈ f.includeKeywords, v ≠ ""
  excludeKeywords : ∀ v ∈ f.excludeKeywords, v ≠ ""
  includeNodeIds : ∀ v ∈ f.includeNodeIds, v ≠ ""
  excludeNodeIds : ∀ v ∈ f.excludeNodeIds, v ≠ ""

/-- A filter is read as it was written. -/
theorem parseFilter_encode (f : ProxyRouting.NodeFilterDto) :
    Decodes (parseFilter (RoutingWire.nodeFilter.strict.encode f)) (FilterReadable f) f := by
  have hprotocols := (arrayOf_all f.protocols protocol_encode).congr_value (List.map_id' f.protocols)
  have hread : Decodes (parseFilter (RoutingWire.nodeFilter.strict.encode f)) _ f :=
    Decodes.bind (exactly_object rfl (by decide)) fun _ =>
    Decodes.bind (member_object rfl hprotocols) fun _ =>
    Decodes.bind (member_object rfl (texts_list f.regions)) fun _ =>
    Decodes.bind (member_object rfl (texts_list f.includeKeywords)) fun _ =>
    Decodes.bind (member_object rfl (texts_list f.excludeKeywords)) fun _ =>
    Decodes.bind (member_object rfl (texts_list f.includeNodeIds)) fun _ =>
    Decodes.bind (member_object rfl (texts_list f.excludeNodeIds)) fun _ =>
    Decodes.pure _
  refine hread.congr ?_
  constructor
  · rintro ⟨-, -, h1, h2, h3, h4, h5, -⟩
    exact ⟨h1, h2, h3, h4, h5⟩
  · rintro ⟨h1, h2, h3, h4, h5⟩
    exact ⟨trivial, trivial, h1, h2, h3, h4, h5, trivial⟩

/-- A source needs a provider and a filter that is read. -/
theorem parseSource_encode (source : ProxyRouting.PoolSourceDto) :
    Decodes (parseSource (RoutingWire.poolSource.strict.encode source))
      (source.providerId ≠ "" ∧ FilterReadable source.filter) source := by
  have hread : Decodes (parseSource (RoutingWire.poolSource.strict.encode source)) _ source :=
    Decodes.bind (exactly_object rfl (by decide)) fun _ =>
    Decodes.bind (member_object rfl (nonEmptyText_str source.providerId)) fun _ =>
    Decodes.bind (member_object rfl (parseFilter_encode source.filter)) fun _ =>
    Decodes.pure _
  exact hread.congr (by simp)

/-- The texts of a selection are there, and the interval of a test is a positive number that a
script holds. -/
def SelectionReadable : ProxyRouting.SelectionDto → Prop
  | .manual selectedNodeId => ∀ id, selectedNodeId = some id → id ≠ ""
  | .urlTest probeUrl intervalSeconds _ =>
    probeUrl ≠ "" ∧ 0 < intervalSeconds.toNat ∧ intervalSeconds.toNat ≤ Browser.maxSafeInteger

theorem option_string_encode (value : Option String) :
    (Codec.string.option Codec.string_nonNull).encode value = ofOption .str value := by
  cases value <;> rfl

/-- An optional text is read if it is missing or has characters. -/
theorem nullableText_option (value : Option String) :
    Decodes (Browser.nullable nonEmptyText (ofOption .str value)) (∀ v, value = some v → v ≠ "")
      value :=
  (nullable_ofOption (fun _ => Json.noConfusion) nonEmptyText_str value).congr_value Option.map_id'

/-- A script holds every number of 32 bits. -/
theorem toNat_u32_safe (n : UInt32) : n.toUInt64.toNat ≤ Browser.maxSafeInteger := by
  have hlt := n.toNat_lt
  rw [UInt32.toNat_toUInt64, Browser.maxSafeInteger]
  omega

theorem val_of {n : Nat} (h : n ≤ Browser.maxSafeInteger) : (SafeInteger.of n).val = n :=
  Nat.min_eq_left h

/-- A selection is read as the same one. -/
theorem parseSelection_encode (selection : ProxyRouting.SelectionDto) :
    Decodes (parseSelection (RoutingWire.selection.encode selection)) (SelectionReadable selection)
      (.of selection) := by
  cases selection with
  | manual id =>
    have hid := nullableText_option id
    rw [← option_string_encode] at hid
    have hread : Decodes (parseSelection (RoutingWire.selection.encode (.manual id))) _
        (Selection.of (.manual id)) :=
      Decodes.bind discriminant_object fun _ =>
      Decodes.bind (exactly_object rfl (by decide)) fun _ =>
      Decodes.bind (member_object rfl hid) fun _ =>
      Decodes.pure _
    exact hread.congr (by simp [SelectionReadable])
  | urlTest url interval tolerance =>
    have hread : Decodes (parseSelection (RoutingWire.selection.encode
        (.urlTest url interval tolerance))) _ (Selection.of (.urlTest url interval tolerance)) :=
      Decodes.bind discriminant_object fun _ =>
      Decodes.bind (exactly_object rfl (by decide)) fun _ =>
      Decodes.bind (member_object rfl (nonEmptyText_str url)) fun _ =>
      Decodes.bind (member_object rfl (safeNumber_u64 interval)) fun _ =>
      Decodes.bind (Decodes.guarded _) fun _ =>
      Decodes.bind (member_object rfl (safeNumber_u64 tolerance.toUInt64)) fun _ =>
      Decodes.pure _
    refine hread.congr ?_
    have htolerance := toNat_u32_safe tolerance
    constructor
    · rintro ⟨-, -, hurl, hsafe, hpositive, -⟩
      rw [val_of hsafe] at hpositive
      exact ⟨hurl, hpositive, hsafe⟩
    · rintro ⟨hurl, hpositive, hsafe⟩
      exact ⟨trivial, trivial, hurl, hsafe, by rwa [val_of hsafe], htolerance, trivial⟩

/-! ## Matchers and targets -/

/-- The texts of a matcher are there, and its ports are ports. -/
def MatcherReadable : ProxyRouting.MatcherDto → Prop
  | .domain values | .domainSuffix values | .application values | .ipCidr values =>
    ∀ v ∈ values, v ≠ ""
  | .port values => ∀ port ∈ values, port ≠ 0
  | .protocol _ => True

/-- Zero is the only port of 16 bits that the page refuses. -/
theorem parsePort_encode (port : UInt16) :
    Decodes (parsePort (Codec.u16.encode port)) (port ≠ 0) (.of port.toNat) := by
  have hlt : port.toNat < 65536 := port.toNat_lt
  have hsafe : port.toUInt64.toNat ≤ Browser.maxSafeInteger := by
    rw [UInt16.toNat_toUInt64, Browser.maxSafeInteger]
    omega
  have hread : Decodes (parsePort (Codec.u16.encode port)) _ (SafeInteger.of port.toUInt64.toNat) :=
    Decodes.bind (safeNumber_u64 port.toUInt64) fun _ =>
    Decodes.bind (Decodes.guarded _) fun _ =>
    Decodes.pure _
  refine (hread.congr ?_).congr_value (by rw [UInt16.toNat_toUInt64])
  rw [val_of hsafe, UInt16.toNat_toUInt64, ne_eq, ← UInt16.toNat_inj, UInt16.toNat_zero]
  rw [UInt16.toNat_toUInt64] at hsafe
  constructor
  · rintro ⟨-, ⟨hpositive, -⟩, -⟩
    omega
  · intro hport
    exact ⟨hsafe, ⟨by omega, by omega⟩, trivial⟩

/-- A matcher is read as the same one. -/
theorem parseMatcher_encode (matcher : ProxyRouting.MatcherDto) :
    Decodes (parseMatcher (RoutingWire.matcher.encode matcher)) (MatcherReadable matcher)
      (.of matcher) := by
  cases matcher with
  | domain values =>
    have hread : Decodes (parseMatcher (RoutingWire.matcher.encode (.domain values))) _
        (Matcher.domain values) :=
      Decodes.bind (exactly_object rfl (by decide)) fun _ =>
      Decodes.bind discriminant_object fun _ =>
      (member_object rfl (texts_list values)).map Matcher.domain
    exact hread.congr (by simp [MatcherReadable])
  | domainSuffix values =>
    have hread : Decodes (parseMatcher (RoutingWire.matcher.encode (.domainSuffix values))) _
        (Matcher.domainSuffix values) :=
      Decodes.bind (exactly_object rfl (by decide)) fun _ =>
      Decodes.bind discriminant_object fun _ =>
      (member_object rfl (texts_list values)).map Matcher.domainSuffix
    exact hread.congr (by simp [MatcherReadable])
  | application values =>
    have hread : Decodes (parseMatcher (RoutingWire.matcher.encode (.application values))) _
        (Matcher.application values) :=
      Decodes.bind (exactly_object rfl (by decide)) fun _ =>
      Decodes.bind discriminant_object fun _ =>
      (member_object rfl (texts_list values)).map Matcher.application
    exact hread.congr (by simp [MatcherReadable])
  | ipCidr values =>
    have hread : Decodes (parseMatcher (RoutingWire.matcher.encode (.ipCidr values))) _
        (Matcher.ipCidr values) :=
      Decodes.bind (exactly_object rfl (by decide)) fun _ =>
      Decodes.bind discriminant_object fun _ =>
      (member_object rfl (texts_list values)).map Matcher.ipCidr
    exact hread.congr (by simp [MatcherReadable])
  | port values =>
    have hread : Decodes (parseMatcher (RoutingWire.matcher.encode (.port values))) _
        (Matcher.of (.port values)) :=
      Decodes.bind (exactly_object rfl (by decide)) fun _ =>
      Decodes.bind discriminant_object fun _ =>
      (member_object rfl (arrayOf_map values fun port _ => parsePort_encode port)).map Matcher.port
    exact hread.congr (by simp [MatcherReadable])
  | protocol values =>
    have hprotocols := (arrayOf_all values network_encode).congr_value (List.map_id' values)
    have hread : Decodes (parseMatcher (RoutingWire.matcher.encode (.protocol values))) _
        (Matcher.protocol values) :=
      Decodes.bind (exactly_object rfl (by decide)) fun _ =>
      Decodes.bind discriminant_object fun _ =>
      (member_object rfl hprotocols).map Matcher.protocol
    exact hread.congr (by simp [MatcherReadable])

/-- A pool target needs an id. -/
theorem parsePoolTarget_object (poolId : String) :
    Decodes (parsePoolTarget (.object [("type", .str "pool"), ("poolId", .str poolId)]))
      (poolId ≠ "") poolId := by
  have hread : Decodes (parsePoolTarget (.object [("type", .str "pool"), ("poolId", .str poolId)]))
      _ poolId :=
    Decodes.bind (exactly_object rfl (by decide)) fun _ =>
    member_object rfl (nonEmptyText_str poolId)
  exact hread.congr (by simp)

/-- A target that names a pool names one. -/
def DefaultTargetReadable : ProxyRouting.DefaultTargetDto → Prop
  | .pool poolId => poolId ≠ ""
  | _ => True

def RouteTargetReadable : ProxyRouting.RouteTargetDto → Prop
  | .pool poolId => poolId ≠ ""
  | _ => True

/-- The default target is read as it was written. -/
theorem parseDefaultTarget_encode (target : ProxyRouting.DefaultTargetDto) :
    Decodes (parseDefaultTarget (RoutingWire.defaultTarget.encode target))
      (DefaultTargetReadable target) target := by
  cases target with
  | pool poolId =>
    have hread : Decodes (parseDefaultTarget (RoutingWire.defaultTarget.encode (.pool poolId))) _
        (ProxyRouting.DefaultTargetDto.pool poolId) :=
      Decodes.bind discriminant_object fun _ =>
      (parsePoolTarget_object poolId).map _
    exact hread.congr (by simp [DefaultTargetReadable])
  | followActiveSubscription | direct | block => exact .of_eq rfl

/-- The target of a route is read as it was written; it has no `unconfigured` form. -/
theorem parseRouteTarget_encode (target : ProxyRouting.RouteTargetDto) :
    Decodes (parseRouteTarget (RoutingWire.routeTarget.encode target))
      (RouteTargetReadable target) target := by
  cases target with
  | pool poolId =>
    have hread : Decodes (parseRouteTarget (RoutingWire.routeTarget.encode (.pool poolId))) _
        (ProxyRouting.RouteTargetDto.pool poolId) :=
      Decodes.bind discriminant_object fun _ =>
      (parsePoolTarget_object poolId).map _
    exact hread.congr (by simp [RouteTargetReadable])
  | direct | block => exact .of_eq rfl

/-! ## Apply states -/

/-- The operation of an apply state has an id. -/
def ApplyStateReadable : ProxyRouting.ApplyState → Prop
  | .applied | .savedPendingApply => True
  | .applying operationId | .savedApplyFailed operationId _ | .applyUnknown operationId =>
    operationId ≠ ""

/-- An apply state with an operation needs its id. -/
theorem parseOperation_obj (t operationId : String) :
    Decodes (parseOperation (.obj [("type", .str t), ("operationId", .str operationId)]))
      (operationId ≠ "") operationId := by
  have hread : Decodes (parseOperation
      (.obj [("type", .str t), ("operationId", .str operationId)])) _ operationId :=
    Decodes.bind (exactly_obj rfl) fun _ =>
    member_of rfl (nonEmptyText_str operationId)
  exact hread.congr (by simp)

/-- An apply state is read as it was sent. -/
theorem parseApplyState_response (state : ProxyRouting.ApplyState) :
    Decodes (parseApplyState state.response) (ApplyStateReadable state) state := by
  cases state with
  | applied | savedPendingApply => exact .of_eq rfl
  | applying operationId =>
    have hread : Decodes (parseApplyState (ProxyRouting.ApplyState.applying operationId).response) _
        (ProxyRouting.ApplyState.applying operationId) :=
      Decodes.bind (.of_eq rfl) fun _ => (parseOperation_obj "applying" operationId).map _
    exact hread.congr (by simp [ApplyStateReadable])
  | applyUnknown operationId =>
    have hread : Decodes (parseApplyState
        (ProxyRouting.ApplyState.applyUnknown operationId).response) _
        (ProxyRouting.ApplyState.applyUnknown operationId) :=
      Decodes.bind (.of_eq rfl) fun _ => (parseOperation_obj "applyUnknown" operationId).map _
    exact hread.congr (by simp [ApplyStateReadable])
  | savedApplyFailed operationId error =>
    have herror : Decodes (oneOf applyErrors (.str error.name)) True error := by
      cases error <;> exact oneOf_str rfl
    have hread : Decodes (parseApplyState
        (ProxyRouting.ApplyState.savedApplyFailed operationId error).response) _
        (ProxyRouting.ApplyState.savedApplyFailed operationId error) :=
      Decodes.bind (.of_eq rfl) fun _ =>
      Decodes.bind (exactly_obj rfl) fun _ =>
      Decodes.bind (member_of rfl (nonEmptyText_str operationId)) fun _ =>
      Decodes.bind (member_of rfl herror) fun _ =>
      Decodes.pure _
    exact hread.congr (by simp [ApplyStateReadable])

/-! ## Entries of a snapshot -/

structure ProviderReadable (p : ProxyRouting.ProviderSnapshot) : Prop where
  id : p.id ≠ ""
  subscriptionId : p.subscriptionId ≠ ""
  name : p.name ≠ ""

/-- A provider is read as it was sent. -/
theorem parseProvider_response (p : ProxyRouting.ProviderSnapshot) :
    Decodes (parseProvider p.response) (ProviderReadable p) p := by
  have hread : Decodes (parseProvider p.response) _ p :=
    Decodes.bind (exactly_obj rfl) fun _ =>
    Decodes.bind (member_of rfl (nonEmptyText_str p.id)) fun _ =>
    Decodes.bind (member_of rfl (nonEmptyText_str p.subscriptionId)) fun _ =>
    Decodes.bind (member_of rfl (nonEmptyText_str p.name)) fun _ =>
    Decodes.pure _
  refine hread.congr ?_
  constructor
  · rintro ⟨-, h1, h2, h3, -⟩
    exact ⟨h1, h2, h3⟩
  · rintro ⟨h1, h2, h3⟩
    exact ⟨trivial, h1, h2, h3, trivial⟩

structure NodeReadable (n : ProxyRouting.NodeSnapshot) : Prop where
  id : n.id ≠ ""
  providerId : n.providerId ≠ ""
  name : n.name ≠ ""

/-- A node is read as it was sent. -/
theorem parseNode_response (n : ProxyRouting.NodeSnapshot) :
    Decodes (parseNode n.response) (NodeReadable n) n := by
  have hread : Decodes (parseNode n.response) _ n :=
    Decodes.bind (exactly_obj rfl) fun _ =>
    Decodes.bind (member_of rfl (nonEmptyText_str n.id)) fun _ =>
    Decodes.bind (member_of rfl (nonEmptyText_str n.providerId)) fun _ =>
    Decodes.bind (member_of rfl (nonEmptyText_str n.name)) fun _ =>
    Decodes.bind (member_of rfl (protocol_encode n.protocol)) fun _ =>
    Decodes.pure _
  refine hread.congr ?_
  constructor
  · rintro ⟨-, h1, h2, h3, -⟩
    exact ⟨h1, h2, h3⟩
  · rintro ⟨h1, h2, h3⟩
    exact ⟨trivial, h1, h2, h3, trivial, trivial⟩

/-- A pool as the pages hold it. -/
def ShownPool.of (p : ProxyRouting.PoolSnapshot) : ShownPool :=
  { id := p.id, name := p.name, kind := p.kind, enabled := p.enabled, sources := p.sources
    selection := .of p.selection, resolvedNodeIds := p.resolvedNodeIds }

structure PoolReadable (p : ProxyRouting.PoolSnapshot) : Prop where
  id : p.id ≠ ""
  name : p.name ≠ ""
  sources : ∀ source ∈ p.sources, source.providerId ≠ "" ∧ FilterReadable source.filter
  selection : SelectionReadable p.selection
  resolvedNodeIds : ∀ id ∈ p.resolvedNodeIds, id ≠ ""

/-- A pool is read as it was sent. -/
theorem parsePool_response (p : ProxyRouting.PoolSnapshot) :
    Decodes (parsePool p.response) (PoolReadable p) (.of p) := by
  have hkind : Decodes (oneOf poolKinds (.str (ProxyRouting.poolKindName p.kind))) True p.kind := by
    cases p.kind <;> exact oneOf_str rfl
  have hsources := (arrayOf_map p.sources fun source _ => parseSource_encode source).congr_value
    (List.map_id' p.sources)
  have hread : Decodes (parsePool p.response) _ (ShownPool.of p) :=
    Decodes.bind (exactly_obj rfl) fun _ =>
    Decodes.bind (member_of rfl (nonEmptyText_str p.id)) fun _ =>
    Decodes.bind (member_of rfl (nonEmptyText_str p.name)) fun _ =>
    Decodes.bind (member_of rfl hkind) fun _ =>
    Decodes.bind (member_of rfl (boolean_bool p.enabled)) fun _ =>
    Decodes.bind (member_of rfl hsources) fun _ =>
    Decodes.bind (member_of rfl (parseSelection_encode p.selection)) fun _ =>
    Decodes.bind (member_of rfl (texts_list p.resolvedNodeIds)) fun _ =>
    Decodes.pure _
  refine hread.congr ?_
  constructor
  · rintro ⟨-, h1, h2, -, -, h3, h4, h5, -⟩
    exact ⟨h1, h2, h3, h4, h5⟩
  · rintro ⟨h1, h2, h3, h4, h5⟩
    exact ⟨trivial, h1, h2, trivial, trivial, h3, h4, h5, trivial⟩

/-- A route as the pages hold it. -/
def ShownRoute.of (r : ProxyRouting.RouteSnapshot) : ShownRoute :=
  { id := r.id, name := r.name, enabled := r.enabled, priority := .of r.priority.toInt.toNat
    matcher := .of r.matcher, target := r.target }

structure RouteReadable (r : ProxyRouting.RouteSnapshot) : Prop where
  id : r.id ≠ ""
  name : r.name ≠ ""
  priority : 0 ≤ r.priority.toInt
  matcher : MatcherReadable r.matcher
  target : RouteTargetReadable r.target

/-- A route is read as it was sent. -/
theorem parseRoute_response (r : ProxyRouting.RouteSnapshot) :
    Decodes (parseRoute r.response) (RouteReadable r) (.of r) := by
  have hread : Decodes (parseRoute r.response) _ (ShownRoute.of r) :=
    Decodes.bind (exactly_obj rfl) fun _ =>
    Decodes.bind (member_of rfl (nonEmptyText_str r.id)) fun _ =>
    Decodes.bind (member_of rfl (nonEmptyText_str r.name)) fun _ =>
    Decodes.bind (member_of rfl (boolean_bool r.enabled)) fun _ =>
    Decodes.bind (member_of rfl (safeNumber_i32 r.priority)) fun _ =>
    Decodes.bind (member_of rfl (parseMatcher_encode r.matcher)) fun _ =>
    Decodes.bind (member_of rfl (parseRouteTarget_encode r.target)) fun _ =>
    Decodes.pure _
  refine hread.congr ?_
  constructor
  · rintro ⟨-, h1, h2, -, h3, h4, h5, -⟩
    exact ⟨h1, h2, h3, h4, h5⟩
  · rintro ⟨h1, h2, h3, h4, h5⟩
    exact ⟨trivial, h1, h2, trivial, h3, h4, h5, trivial⟩

structure SelectorReadable (s : ProxyRouting.SelectorSnapshot) : Prop where
  poolId : s.poolId ≠ ""
  desiredNodeId : ∀ id, s.desiredNodeId = some id → id ≠ ""
  runtimeNodeId : ∀ id, s.runtimeNodeId = some id → id ≠ ""

/-- A selector is read as it was sent. -/
theorem parseSelector_response (s : ProxyRouting.SelectorSnapshot) :
    Decodes (parseSelector s.response) (SelectorReadable s) s := by
  have hstate : Decodes (oneOf selectorStates (.str s.state.name)) True s.state := by
    cases s.state <;> exact oneOf_str rfl
  have hread : Decodes (parseSelector s.response) _ s :=
    Decodes.bind (exactly_obj rfl) fun _ =>
    Decodes.bind (member_of rfl (nonEmptyText_str s.poolId)) fun _ =>
    Decodes.bind (member_of rfl (nullableText_option s.desiredNodeId)) fun _ =>
    Decodes.bind (member_of rfl (nullableText_option s.runtimeNodeId)) fun _ =>
    Decodes.bind (member_of rfl hstate) fun _ =>
    Decodes.pure _
  refine hread.congr ?_
  constructor
  · rintro ⟨-, h1, h2, h3, -⟩
    exact ⟨h1, h2, h3⟩
  · rintro ⟨h1, h2, h3⟩
    exact ⟨trivial, h1, h2, h3, trivial, trivial⟩

/-! ## Snapshots -/

/-- A snapshot as the pages hold it. -/
def ShownRouting.of (s : ProxyRouting.ProxyRoutingSnapshot) : ShownRouting :=
  { revision := .of s.revision.toNat
    desiredGeneration := .of s.desiredGeneration.toNat
    appliedGeneration := s.appliedGeneration.map fun n => .of n.toNat
    runtimeState := s.runtimeState
    applyState := s.applyState
    activeSubscriptionId := s.activeSubscriptionId
    appliedSubscriptionId := s.appliedSubscriptionId
    providers := s.providers
    nodes := s.nodes
    defaultTarget := s.defaultTarget
    pools := s.pools.map .of
    routes := s.routes.map .of
    selectors := s.selectors }

/-- What the pages ask of a snapshot. -/
structure RoutingReadable (s : ProxyRouting.ProxyRoutingSnapshot) : Prop where
  revision : s.revision.toNat ≤ Browser.maxSafeInteger
  desiredGeneration : s.desiredGeneration.toNat ≤ Browser.maxSafeInteger
  appliedGeneration : ∀ n, s.appliedGeneration = some n → n.toNat ≤ Browser.maxSafeInteger
  applyState : ApplyStateReadable s.applyState
  activeSubscriptionId : ∀ id, s.activeSubscriptionId = some id → id ≠ ""
  appliedSubscriptionId : ∀ id, s.appliedSubscriptionId = some id → id ≠ ""
  providers : ∀ p ∈ s.providers, ProviderReadable p
  nodes : ∀ n ∈ s.nodes, NodeReadable n
  defaultTarget : DefaultTargetReadable s.defaultTarget
  pools : ∀ p ∈ s.pools, PoolReadable p
  routes : ∀ r ∈ s.routes, RouteReadable r
  selectors : ∀ selector ∈ s.selectors, SelectorReadable selector

/-- Both sides have the same names for the states of the runtime. -/
theorem runtimeState_str (state : ProxyRouting.RuntimeState) :
    Decodes (oneOf runtimeStates (.str state.name)) True state := by
  cases state <;> exact oneOf_str rfl

/-- A snapshot is read exactly if it is readable, and then as it is. -/
theorem parseProxyRoutingSnapshot_response (s : ProxyRouting.ProxyRoutingSnapshot) :
    Decodes (parseProxyRoutingSnapshot s.response) (RoutingReadable s) (.of s) := by
  have happlied := nullable_ofOption (fun _ => Json.noConfusion) safeNumber_u64 s.appliedGeneration
  have hproviders := (arrayOf_map s.providers fun p _ => parseProvider_response p).congr_value
    (List.map_id' s.providers)
  have hnodes := (arrayOf_map s.nodes fun n _ => parseNode_response n).congr_value
    (List.map_id' s.nodes)
  have hselectors := (arrayOf_map s.selectors fun s _ => parseSelector_response s).congr_value
    (List.map_id' s.selectors)
  have hread : Decodes (parseProxyRoutingSnapshot s.response) _ (ShownRouting.of s) :=
    Decodes.bind (exactly_obj rfl) fun _ =>
    Decodes.bind (member_of rfl (safeNumber_u64 s.revision)) fun _ =>
    Decodes.bind (member_of rfl (safeNumber_u64 s.desiredGeneration)) fun _ =>
    Decodes.bind (member_of rfl happlied) fun _ =>
    Decodes.bind (member_of rfl (runtimeState_str s.runtimeState)) fun _ =>
    Decodes.bind (member_of rfl (nullableText_option s.activeSubscriptionId)) fun _ =>
    Decodes.bind (member_of rfl (nullableText_option s.appliedSubscriptionId)) fun _ =>
    Decodes.bind (member_of rfl (parseApplyState_response s.applyState)) fun _ =>
    Decodes.bind (member_of rfl hproviders) fun _ =>
    Decodes.bind (member_of rfl hnodes) fun _ =>
    Decodes.bind (member_of rfl (parseDefaultTarget_encode s.defaultTarget)) fun _ =>
    Decodes.bind (member_of rfl (arrayOf_map s.pools fun p _ => parsePool_response p)) fun _ =>
    Decodes.bind (member_of rfl (arrayOf_map s.routes fun r _ => parseRoute_response r)) fun _ =>
    Decodes.bind (member_of rfl hselectors) fun _ =>
    Decodes.pure _
  refine hread.congr ?_
  constructor
  · rintro ⟨-, h1, h2, h3, -, h4, h5, h6, h7, h8, h9, h10, h11, h12, -⟩
    exact ⟨h1, h2, h3, h6, h4, h5, h7, h8, h9, h10, h11, h12⟩
  · rintro ⟨h1, h2, h3, h4, h5, h6, h7, h8, h9, h10, h11, h12⟩
    exact ⟨trivial, h1, h2, h3, trivial, h5, h6, h4, h7, h8, h9, h10, h11, h12, trivial⟩

/-! ## Answers -/

/-- The ids of an outcome are there. -/
def OutcomeReadable : ProxyRouting.Outcome → Prop
  | .saved => True
  | .selectorApplied poolId nodeId | .selectorSavedOnly poolId nodeId _
  | .selectorApplyUnknown poolId nodeId _ => poolId ≠ "" ∧ nodeId ≠ ""
  | .selectorNotApplied poolId nodeId runtimeNodeId =>
    poolId ≠ "" ∧ nodeId ≠ "" ∧ runtimeNodeId ≠ ""
  | .applyStarted operationId | .applyCompleted operationId => operationId ≠ ""

/-- The outcome of a mutation is read as it was sent. -/
theorem parseOutcome_response (outcome : ProxyRouting.Outcome) :
    Decodes (parseOutcome outcome.response) (OutcomeReadable outcome) outcome := by
  cases outcome with
  | saved => exact .of_eq rfl
  | selectorApplied poolId nodeId =>
    have hread : Decodes (parseOutcome
        (ProxyRouting.Outcome.selectorApplied poolId nodeId).response) _
        (ProxyRouting.Outcome.selectorApplied poolId nodeId) :=
      Decodes.bind (.of_eq rfl) fun _ =>
      Decodes.bind (exactly_obj rfl) fun _ =>
      Decodes.bind (member_of rfl (nonEmptyText_str poolId)) fun _ =>
      Decodes.bind (member_of rfl (nonEmptyText_str nodeId)) fun _ =>
      Decodes.pure _
    exact hread.congr (by simp [OutcomeReadable])
  | selectorNotApplied poolId nodeId runtimeNodeId =>
    have hread : Decodes (parseOutcome
        (ProxyRouting.Outcome.selectorNotApplied poolId nodeId runtimeNodeId).response) _
        (ProxyRouting.Outcome.selectorNotApplied poolId nodeId runtimeNodeId) :=
      Decodes.bind (.of_eq rfl) fun _ =>
      Decodes.bind (exactly_obj rfl) fun _ =>
      Decodes.bind (member_of rfl (nonEmptyText_str poolId)) fun _ =>
      Decodes.bind (member_of rfl (nonEmptyText_str nodeId)) fun _ =>
      Decodes.bind (member_of rfl (nonEmptyText_str runtimeNodeId)) fun _ =>
      Decodes.pure _
    exact hread.congr (by simp [OutcomeReadable])
  | selectorSavedOnly poolId nodeId reason =>
    have hreason : Decodes (oneOf savedOnlyReasons
        (.str (ProxyRouting.SelectorSavedOnlyReason.name reason))) True reason := by
      cases reason <;> exact oneOf_str rfl
    have hread : Decodes (parseOutcome
        (ProxyRouting.Outcome.selectorSavedOnly poolId nodeId reason).response) _
        (ProxyRouting.Outcome.selectorSavedOnly poolId nodeId reason) :=
      Decodes.bind (.of_eq rfl) fun _ =>
      Decodes.bind (exactly_obj rfl) fun _ =>
      Decodes.bind (member_of rfl (nonEmptyText_str poolId)) fun _ =>
      Decodes.bind (member_of rfl (nonEmptyText_str nodeId)) fun _ =>
      Decodes.bind (member_of rfl hreason) fun _ =>
      Decodes.pure _
    exact hread.congr (by simp [OutcomeReadable])
  | selectorApplyUnknown poolId nodeId reason =>
    have hreason : Decodes (oneOf unknownReasons (.str reason.name)) True reason := by
      cases reason with
      | runtime reason => cases reason <;> exact oneOf_str rfl
      | superseded => exact oneOf_str rfl
    have hread : Decodes (parseOutcome
        (ProxyRouting.Outcome.selectorApplyUnknown poolId nodeId reason).response) _
        (ProxyRouting.Outcome.selectorApplyUnknown poolId nodeId reason) :=
      Decodes.bind (.of_eq rfl) fun _ =>
      Decodes.bind (exactly_obj rfl) fun _ =>
      Decodes.bind (member_of rfl (nonEmptyText_str poolId)) fun _ =>
      Decodes.bind (member_of rfl (nonEmptyText_str nodeId)) fun _ =>
      Decodes.bind (member_of rfl hreason) fun _ =>
      Decodes.pure _
    exact hread.congr (by simp [OutcomeReadable])
  | applyStarted operationId =>
    have hread : Decodes (parseOutcome
        (ProxyRouting.Outcome.applyStarted operationId).response) _
        (ProxyRouting.Outcome.applyStarted operationId) :=
      Decodes.bind (.of_eq rfl) fun _ => (parseOperation_obj "applyStarted" operationId).map _
    exact hread.congr (by simp [OutcomeReadable])
  | applyCompleted operationId =>
    have hread : Decodes (parseOutcome
        (ProxyRouting.Outcome.applyCompleted operationId).response) _
        (ProxyRouting.Outcome.applyCompleted operationId) :=
      Decodes.bind (.of_eq rfl) fun _ => (parseOperation_obj "applyCompleted" operationId).map _
    exact hread.congr (by simp [OutcomeReadable])

/-- What the pages make of a snapshot that is answered. -/
def receivedSnapshot : ProxyRouting.SnapshotResult → Except ProxyRouting.QueryError ShownRouting
  | .ok snapshot => .ok (.of snapshot)
  | .error e => .error e

def SnapshotReadable : ProxyRouting.SnapshotResult → Prop
  | .ok snapshot => RoutingReadable snapshot
  | .error _ => True

/-- The answer to a query is read as it was sent, an error included. -/
theorem parseSnapshotResult_response (result : ProxyRouting.SnapshotResult) :
    Decodes (parseSnapshotResult result.response) (SnapshotReadable result)
      (receivedSnapshot result) := by
  cases result with
  | ok snapshot =>
    have hread : Decodes (parseSnapshotResult (ProxyRouting.SnapshotResult.ok snapshot).response) _
        (receivedSnapshot (.ok snapshot)) :=
      Decodes.bind (.of_eq rfl) fun _ =>
      Decodes.bind (exactly_obj rfl) fun _ =>
      (member_of rfl (parseProxyRoutingSnapshot_response snapshot)).map _
    exact hread.congr (by simp [SnapshotReadable])
  | error e =>
    have herror : Decodes (oneOf queryErrors (.str e.name)) True e := by
      cases e <;> exact oneOf_str rfl
    have hread : Decodes (parseSnapshotResult (ProxyRouting.SnapshotResult.error e).response) _
        (receivedSnapshot (.error e)) :=
      Decodes.bind (.of_eq rfl) fun _ =>
      Decodes.bind (exactly_obj rfl) fun _ =>
      (member_of rfl herror).map _
    exact hread.congr (by simp [SnapshotReadable])

/-- What the pages make of the answer to a mutation. -/
def receivedMutation : ProxyRouting.MutationResult →
    Except (ProxyRouting.MutationError × Option SafeInteger) (ProxyRouting.Outcome × ShownRouting)
  | .ok outcome snapshot => .ok (outcome, .of snapshot)
  | .error e revision => .error (e, revision.map fun n => .of n.toNat)

def MutationReadable : ProxyRouting.MutationResult → Prop
  | .ok outcome snapshot => OutcomeReadable outcome ∧ RoutingReadable snapshot
  | .error _ revision => ∀ n, revision = some n → n.toNat ≤ Browser.maxSafeInteger

/-- The answer to a mutation is read as it was sent, an error with its snapshot included. -/
theorem parseMutationResult_response (result : ProxyRouting.MutationResult) :
    Decodes (parseMutationResult result.response) (MutationReadable result)
      (receivedMutation result) := by
  cases result with
  | ok outcome snapshot =>
    have hread : Decodes
        (parseMutationResult (ProxyRouting.MutationResult.ok outcome snapshot).response) _
        (receivedMutation (.ok outcome snapshot)) :=
      Decodes.bind (.of_eq rfl) fun _ =>
      Decodes.bind (exactly_obj rfl) fun _ =>
      Decodes.bind (member_of rfl (parseOutcome_response outcome)) fun _ =>
      Decodes.bind (member_of rfl (parseProxyRoutingSnapshot_response snapshot)) fun _ =>
      Decodes.pure _
    exact hread.congr (by simp [MutationReadable])
  | error e revision =>
    have herror : Decodes (oneOf mutationErrors (.str e.name)) True e := by
      cases e <;> exact oneOf_str rfl
    have hrevision := nullable_ofOption (fun _ => Json.noConfusion) safeNumber_u64 revision
    have hread : Decodes
        (parseMutationResult (ProxyRouting.MutationResult.error e revision).response) _
        (receivedMutation (.error e revision)) :=
      Decodes.bind (.of_eq rfl) fun _ =>
      Decodes.bind (exactly_obj rfl) fun _ =>
      Decodes.bind (member_of rfl herror) fun _ =>
      Decodes.bind (member_of rfl hrevision) fun _ =>
      Decodes.pure _
    exact hread.congr (by simp [MutationReadable])

end Veyra.Frontend
