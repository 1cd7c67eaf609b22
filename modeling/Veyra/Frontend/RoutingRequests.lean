import Veyra.Application.RoutingWire
import Veyra.Lib.Browser

/-!
# Veyra.Frontend.RoutingRequests

The mutations of routing as the pages build them, and `encodeProxyRoutingMutation`, which writes
them for `mutate_proxy_routing`.

The numbers of a script are safe integers, which are wider than some of the fields they go to.
-/

namespace Veyra.Frontend

open Browser Codec RecordCodec

/-! ## The mutations of the pages -/

/-- An integer that is not negative and that a script holds exactly. -/
abbrev SafeInteger := { n : Nat // n ≤ Browser.maxSafeInteger }

namespace SafeInteger

def toUInt64 (n : SafeInteger) : UInt64 := UInt64.ofNat n.val

theorem toNat_toUInt64 (n : SafeInteger) : n.toUInt64.toNat = n.val := by
  have hsafe : n.val ≤ 9007199254740991 := n.property
  rw [toUInt64, UInt64.toNat_ofNat_of_lt']
  rw [UInt64.size]
  omega

/-- The number as it is written. -/
def write (n : SafeInteger) : Json := .num (.posInt n.toUInt64)

/-- The integer as a `u32`. -/
def toUInt32? (n : SafeInteger) : Option UInt32 :=
  if n.val < 2 ^ 32 then some (UInt32.ofNat n.val) else none

/-- The integer as a `u16`. -/
def toUInt16? (n : SafeInteger) : Option UInt16 :=
  if n.val < 2 ^ 16 then some (UInt16.ofNat n.val) else none

end SafeInteger

inductive Selection
  | manual (selectedNodeId : Option String)
  | urlTest (probeUrl : String) (intervalSeconds toleranceMs : SafeInteger)

inductive Matcher
  | domain (values : List String)
  | domainSuffix (values : List String)
  | application (values : List String)
  | ipCidr (values : List String)
  | port (values : List SafeInteger)
  | protocol (values : List NetworkProtocol)

/-- `ProxyRoutingMutation` of the scripts. -/
inductive RoutingMutation
  | createCustomPool (name : String) (enabled : Bool) (sources : List ProxyRouting.PoolSourceDto)
      (selection : Selection)
  | updateCustomPool (id name : String) (enabled : Bool)
      (sources : List ProxyRouting.PoolSourceDto) (selection : Selection)
  | deleteCustomPool (id : String)
  | setManualSelection (poolId nodeId : String)
  | setDefaultTarget (target : ProxyRouting.DefaultTargetDto)
  | createRoute (name : String) (enabled : Bool) (matcher : Matcher)
      (target : ProxyRouting.RouteTargetDto) (insertAt : SafeInteger)
  | updateRoute (id name : String) (enabled : Bool) (matcher : Matcher)
      (target : ProxyRouting.RouteTargetDto)
  | deleteRoute (id : String)
  | reorderRoutes (routeIds : List String)
  | applyConfiguration

/-! ## Writing them -/

def writeTexts (values : List String) : Json := .arr (values.map .str)

def encodeFilter (filter : ProxyRouting.NodeFilterDto) : Json :=
  .object
    [("regions", writeTexts filter.regions),
     ("protocols", .arr (filter.protocols.map fun p => .str (RoutingWire.protocolName p))),
     ("includeKeywords", writeTexts filter.includeKeywords),
     ("excludeKeywords", writeTexts filter.excludeKeywords),
     ("includeNodeIds", writeTexts filter.includeNodeIds),
     ("excludeNodeIds", writeTexts filter.excludeNodeIds)]

def encodeSources (sources : List ProxyRouting.PoolSourceDto) : Json :=
  .arr (sources.map fun source =>
    .object [("providerId", .str source.providerId), ("filter", encodeFilter source.filter)])

def encodeSelection : Selection → Json
  | .manual selectedNodeId =>
    .object [("type", .str "manual"), ("selectedNodeId", ofOption .str selectedNodeId)]
  | .urlTest probeUrl intervalSeconds toleranceMs =>
    .object
      [("type", .str "urlTest"), ("probeUrl", .str probeUrl),
       ("intervalSeconds", intervalSeconds.write), ("toleranceMs", toleranceMs.write)]

/-- The `type` and the `values` of a matcher. -/
def Matcher.parts : Matcher → String × Json
  | .domain values => ("domain", writeTexts values)
  | .domainSuffix values => ("domainSuffix", writeTexts values)
  | .application values => ("application", writeTexts values)
  | .ipCidr values => ("ipCidr", writeTexts values)
  | .port values => ("port", .arr (values.map SafeInteger.write))
  | .protocol values => ("protocol", .arr (values.map fun p => .str (RoutingWire.networkName p)))

def encodeMatcher (matcher : Matcher) : Json :=
  .object [("type", .str matcher.parts.1), ("values", matcher.parts.2)]

def encodeDefaultTarget : ProxyRouting.DefaultTargetDto → Json
  | .followActiveSubscription => .object [("type", .str "followActiveSubscription")]
  | .pool poolId => .object [("type", .str "pool"), ("poolId", .str poolId)]
  | .direct => .object [("type", .str "direct")]
  | .block => .object [("type", .str "block")]

def encodeRouteTarget : ProxyRouting.RouteTargetDto → Json
  | .pool poolId => .object [("type", .str "pool"), ("poolId", .str poolId)]
  | .direct => .object [("type", .str "direct")]
  | .block => .object [("type", .str "block")]

/-- The `type` of a mutation and its other fields. -/
def RoutingMutation.parts : RoutingMutation → String × List (String × Json)
  | .createCustomPool name enabled sources selection =>
    ("createCustomPool",
      [("name", .str name), ("enabled", .bool enabled), ("sources", encodeSources sources),
       ("selection", encodeSelection selection)])
  | .updateCustomPool id name enabled sources selection =>
    ("updateCustomPool",
      [("id", .str id), ("name", .str name), ("enabled", .bool enabled),
       ("sources", encodeSources sources), ("selection", encodeSelection selection)])
  | .deleteCustomPool id => ("deleteCustomPool", [("id", .str id)])
  | .setManualSelection poolId nodeId =>
    ("setManualSelection", [("poolId", .str poolId), ("nodeId", .str nodeId)])
  | .setDefaultTarget target => ("setDefaultTarget", [("target", encodeDefaultTarget target)])
  | .createRoute name enabled matcher target insertAt =>
    ("createRoute",
      [("name", .str name), ("enabled", .bool enabled), ("matcher", encodeMatcher matcher),
       ("target", encodeRouteTarget target), ("insertAt", insertAt.write)])
  | .updateRoute id name enabled matcher target =>
    ("updateRoute",
      [("id", .str id), ("name", .str name), ("enabled", .bool enabled),
       ("matcher", encodeMatcher matcher), ("target", encodeRouteTarget target)])
  | .deleteRoute id => ("deleteRoute", [("id", .str id)])
  | .reorderRoutes routeIds => ("reorderRoutes", [("routeIds", writeTexts routeIds)])
  | .applyConfiguration => ("applyConfiguration", [])

def encodeProxyRoutingMutation (mutation : RoutingMutation) : Json :=
  .object (("type", .str mutation.parts.1) :: mutation.parts.2)

/-- The `request` argument that `mutateProxyRouting` sends. -/
def mutateProxyRouting (expectedRevision : SafeInteger) (mutation : RoutingMutation) : Json :=
  .object
    [("expectedRevision", expectedRevision.write),
     ("mutation", encodeProxyRoutingMutation mutation)]

/-! ## What they mean to the backend -/

/-- The selection with the tolerance in its field, if it fits. -/
def Selection.toDto : Selection → Option ProxyRouting.SelectionDto
  | .manual selectedNodeId => some (.manual selectedNodeId)
  | .urlTest probeUrl intervalSeconds toleranceMs =>
    toleranceMs.toUInt32?.map fun tolerance => .urlTest probeUrl intervalSeconds.toUInt64 tolerance

/-- The matcher with the ports in their fields, if they all fit. -/
def Matcher.toDto : Matcher → Option ProxyRouting.MatcherDto
  | .domain values => some (.domain values)
  | .domainSuffix values => some (.domainSuffix values)
  | .application values => some (.application values)
  | .ipCidr values => some (.ipCidr values)
  | .port values => (values.mapM SafeInteger.toUInt16?).map .port
  | .protocol values => some (.protocol values)

/-- The mutation with its numbers in their fields. -/
def RoutingMutation.toDto : RoutingMutation → Option ProxyRouting.Mutation
  | .createCustomPool name enabled sources selection =>
    selection.toDto.map fun selection => .createCustomPool name enabled sources selection
  | .updateCustomPool id name enabled sources selection =>
    selection.toDto.map fun selection => .updateCustomPool id name enabled sources selection
  | .deleteCustomPool id => some (.deleteCustomPool id)
  | .setManualSelection poolId nodeId => some (.setManualSelection poolId nodeId)
  | .setDefaultTarget target => some (.setDefaultTarget target)
  | .createRoute name enabled matcher target insertAt =>
    matcher.toDto.map fun matcher => .createRoute name enabled matcher target insertAt.val
  | .updateRoute id name enabled matcher target =>
    matcher.toDto.map fun matcher => .updateRoute id name enabled matcher target
  | .deleteRoute id => some (.deleteRoute id)
  | .reorderRoutes routeIds => some (.reorderRoutes routeIds)
  | .applyConfiguration => some .applyConfiguration

/-! ## The backend reads what is written -/

/-- As a number of 32 bits if it fits. -/
theorem decode_write_u32 (n : SafeInteger) : u32.decode n.write = n.toUInt32? := by
  have hn := n.toNat_toUInt64
  change (if n.toUInt64 ≤ 0xffffffff then some n.toUInt64.toUInt32 else none) = n.toUInt32?
  rw [SafeInteger.toUInt32?]
  by_cases h : n.val < 2 ^ 32
  · have hle : n.toUInt64 ≤ 0xffffffff := by
      rw [UInt64.le_iff_toNat_le, hn]
      exact Nat.le_of_lt_succ h
    rw [if_pos hle, if_pos h, SafeInteger.toUInt64, UInt64.toUInt32_ofNat']
  · have hlt : ¬ n.toUInt64 ≤ 0xffffffff := by
      rw [UInt64.le_iff_toNat_le, hn]
      exact fun hle => h (Nat.lt_succ_of_le hle)
    rw [if_neg hlt, if_neg h]

/-- As a number of 16 bits if it fits. -/
theorem decode_write_u16 (n : SafeInteger) : u16.decode n.write = n.toUInt16? := by
  have hn := n.toNat_toUInt64
  change (if n.toUInt64 ≤ 0xffff then some n.toUInt64.toUInt16 else none) = n.toUInt16?
  rw [SafeInteger.toUInt16?]
  by_cases h : n.val < 2 ^ 16
  · have hle : n.toUInt64 ≤ 0xffff := by
      rw [UInt64.le_iff_toNat_le, hn]
      exact Nat.le_of_lt_succ h
    rw [if_pos hle, if_pos h, SafeInteger.toUInt64, UInt64.toUInt16_ofNat']
  · have hlt : ¬ n.toUInt64 ≤ 0xffff := by
      rw [UInt64.le_iff_toNat_le, hn]
      exact fun hle => h (Nat.lt_succ_of_le hle)
    rw [if_neg hlt, if_neg h]

/-- A selection is received if its numbers fit. -/
theorem decode_encodeSelection (s : Selection) :
    RoutingWire.selection.decode (encodeSelection s) = s.toDto := by
  cases s with
  | manual id =>
    have hwritten : encodeSelection (.manual id) = RoutingWire.selection.encode (.manual id) := by
      cases id <;> rfl
    rw [hwritten, decode_encode]
    rfl
  | urlTest u i t =>
    rw [encodeSelection, RoutingWire.selection, tagged_decode]
    change (RoutingWire.urlTestFields.readStrict ["type"] (.members (Json.ordered _))).map _ = _
    rw [readStrict_ordered (by decide) rfl]
    change (((u32.decode t.write).map (i.toUInt64, ·)).map (u, ·)).map _ = _
    rw [decode_write_u32, Option.map_map, Option.map_map]
    rfl

/-- Ports are received if each of them fits. -/
theorem decodeAll_ports (values : List SafeInteger) :
    u16.decodeAll (values.map SafeInteger.write) = values.mapM SafeInteger.toUInt16? := by
  induction values with
  | nil => rfl
  | cons n values ih =>
    rw [List.map_cons, decodeAll, decode_write_u16, ih, List.mapM_cons]
    cases n.toUInt16? with
    | none => rfl
    | some port => cases values.mapM SafeInteger.toUInt16? <;> rfl

/-- A matcher is received if its ports fit. -/
theorem decode_encodeMatcher (m : Matcher) :
    RoutingWire.matcher.decode (encodeMatcher m) = m.toDto := by
  rw [encodeMatcher, RoutingWire.matcher, adjacentStrict_decode, Option.bind_some]
  cases m with
  | domain values => exact RoutingWire.readMatcher_write (.domain values)
  | domainSuffix values => exact RoutingWire.readMatcher_write (.domainSuffix values)
  | application values => exact RoutingWire.readMatcher_write (.application values)
  | ipCidr values => exact RoutingWire.readMatcher_write (.ipCidr values)
  | port values =>
    change (u16.decodeAll (values.map SafeInteger.write)).map ProxyRouting.MatcherDto.port = _
    rw [decodeAll_ports]
    rfl
  | protocol values =>
    have hwritten : (values.map fun p => Json.str (RoutingWire.networkName p)) =
        values.map RoutingWire.network.encode := rfl
    change (RoutingWire.network.decodeAll (values.map fun p => Json.str (RoutingWire.networkName p))).map
      ProxyRouting.MatcherDto.protocol = _
    rw [hwritten, decodeAll_map_encode]
    rfl

/-- Sources are written as the backend would. -/
theorem encodeSources_eq (sources : List ProxyRouting.PoolSourceDto) :
    encodeSources sources = (list RoutingWire.poolSource.strict).encode sources := rfl

/-- The default target is written as the backend would. -/
theorem encodeDefaultTarget_eq (target : ProxyRouting.DefaultTargetDto) :
    encodeDefaultTarget target = RoutingWire.defaultTarget.encode target := by
  cases target <;> rfl

/-- The target of a route is written as the backend would. -/
theorem encodeRouteTarget_eq (target : ProxyRouting.RouteTargetDto) :
    encodeRouteTarget target = RoutingWire.routeTarget.encode target := by
  cases target <;> rfl

/-- A variant is chosen by its tag. -/
theorem decodeMutation_object (tag : String) (fields : List (String × Json)) :
    RoutingWire.decodeMutation (.object (("type", .str tag) :: fields)) =
      RoutingWire.readMutation tag (.members (Json.ordered (("type", .str tag) :: fields))) := by
  rw [Json.object_eq, RoutingWire.decodeMutation]
  simp only [Json.lookup_ordered, Json.lookup_cons, if_true, Option.bind_some, Json.asStr?]

section Fields

variable (name : String) (enabled : Bool)

/-- The fields of a pool are received if its selection fits. -/
theorem poolFields_written (sources : List ProxyRouting.PoolSourceDto) (selection : Selection) :
    RoutingWire.poolFields.fromMembers
      [("name", .str name), ("enabled", .bool enabled), ("sources", encodeSources sources),
       ("selection", encodeSelection selection)] =
      selection.toDto.map (name, enabled, sources, ·) := by
  change ((((list RoutingWire.poolSource.strict).decode (encodeSources sources)).bind fun sources =>
    (RoutingWire.selection.decode (encodeSelection selection)).map (sources, ·)).map
      (enabled, ·)).map (name, ·) = _
  rw [encodeSources_eq, decode_encode, decode_encodeSelection, Option.bind_some, Option.map_map,
    Option.map_map]
  rfl

/-- The fields of a route are received if its matcher fits. -/
theorem routeFields_written (matcher : Matcher) (target : ProxyRouting.RouteTargetDto) :
    RoutingWire.routeFields.fromMembers
      [("name", .str name), ("enabled", .bool enabled), ("matcher", encodeMatcher matcher),
       ("target", encodeRouteTarget target)] =
      matcher.toDto.map (name, enabled, ·, target) := by
  change (((RoutingWire.matcher.decode (encodeMatcher matcher)).bind fun matcher =>
    (RoutingWire.routeTarget.decode (encodeRouteTarget target)).map (matcher, ·)).map
      (enabled, ·)).map (name, ·) = _
  rw [encodeRouteTarget_eq, decode_encode, decode_encodeMatcher, Option.map_map]
  cases matcher.toDto <;> rfl

end Fields

/-- What a page builds is what the backend reads, if the numbers fit in their fields. -/
theorem decodeMutation_encode (m : RoutingMutation) :
    RoutingWire.decodeMutation (encodeProxyRoutingMutation m) = m.toDto := by
  rw [encodeProxyRoutingMutation, decodeMutation_object]
  cases m with
  | createCustomPool name enabled sources selection =>
    simp only [RoutingMutation.parts]
    change (RoutingWire.poolFields.readStrict ["type"] (.members (Json.ordered _))).map _ = _
    rw [readStrict_ordered (by decide) rfl, poolFields_written, Option.map_map]
    rfl
  | updateCustomPool id name enabled sources selection =>
    simp only [RoutingMutation.parts]
    change ((RoutingWire.idField.and RoutingWire.poolFields).readStrict ["type"]
      (.members (Json.ordered _))).map _ = _
    rw [readStrict_ordered (by decide) rfl]
    change ((RoutingWire.poolFields.fromMembers
      [("name", .str name), ("enabled", .bool enabled), ("sources", encodeSources sources),
       ("selection", encodeSelection selection)]).map (id, ·)).map _ = _
    rw [poolFields_written, Option.map_map, Option.map_map]
    rfl
  | deleteCustomPool id =>
    simp only [RoutingMutation.parts]
    change (RoutingWire.idField.readStrict ["type"] (.members (Json.ordered _))).map _ = _
    rw [readStrict_ordered (by decide) rfl]
    rfl
  | setManualSelection poolId nodeId =>
    simp only [RoutingMutation.parts]
    change (RoutingWire.nodeFields.readStrict ["type"] (.members (Json.ordered _))).map _ = _
    rw [readStrict_ordered (by decide) rfl]
    rfl
  | setDefaultTarget target =>
    simp only [RoutingMutation.parts]
    change (RoutingWire.targetField.readStrict ["type"] (.members (Json.ordered _))).map _ = _
    rw [readStrict_ordered (by decide) rfl]
    change (RoutingWire.defaultTarget.decode (encodeDefaultTarget target)).map _ = _
    rw [encodeDefaultTarget_eq, decode_encode]
    rfl
  | createRoute name enabled matcher target insertAt =>
    simp only [RoutingMutation.parts]
    change ((RoutingWire.routeFields.and RoutingWire.insertField).readStrict ["type"]
      (.members (Json.ordered _))).map _ = _
    rw [readStrict_ordered (by decide) rfl]
    change ((RoutingWire.routeFields.fromMembers
      [("name", .str name), ("enabled", .bool enabled), ("matcher", encodeMatcher matcher),
       ("target", encodeRouteTarget target)]).bind fun fields =>
      (RoutingWire.usize.decode insertAt.write).map (fields, ·)).map _ = _
    have hinsert : RoutingWire.usize.decode insertAt.write = some insertAt.toUInt64.toFin := rfl
    have hnumber : (insertAt.toUInt64.toFin : Nat) = insertAt.val := insertAt.toNat_toUInt64
    rw [routeFields_written, hinsert, RoutingMutation.toDto]
    cases matcher.toDto with
    | none => rfl
    | some dto =>
      simp only [Option.map_some, Option.bind_some, hnumber]
  | updateRoute id name enabled matcher target =>
    simp only [RoutingMutation.parts]
    change ((RoutingWire.idField.and RoutingWire.routeFields).readStrict ["type"]
      (.members (Json.ordered _))).map _ = _
    rw [readStrict_ordered (by decide) rfl]
    change ((RoutingWire.routeFields.fromMembers
      [("name", .str name), ("enabled", .bool enabled), ("matcher", encodeMatcher matcher),
       ("target", encodeRouteTarget target)]).map (id, ·)).map _ = _
    rw [routeFields_written, Option.map_map, Option.map_map]
    rfl
  | deleteRoute id =>
    simp only [RoutingMutation.parts]
    change (RoutingWire.idField.readStrict ["type"] (.members (Json.ordered _))).map _ = _
    rw [readStrict_ordered (by decide) rfl]
    rfl
  | reorderRoutes routeIds =>
    simp only [RoutingMutation.parts]
    change (RoutingWire.orderField.readStrict ["type"] (.members (Json.ordered _))).map _ = _
    rw [readStrict_ordered (by decide) rfl]
    change ((list Codec.string).decode ((list Codec.string).encode routeIds)).map _ = _
    rw [decode_encode]
    rfl
  | applyConfiguration => rfl

/-! ## Numbers that fit -/

/-- The tolerance of a test fits in a `u32`. -/
def Selection.Fits : Selection → Prop
  | .manual _ => True
  | .urlTest _ _ toleranceMs => toleranceMs.val < 2 ^ 32

/-- The ports of a matcher fit in a `u16`. -/
def Matcher.Fits : Matcher → Prop
  | .port values => ∀ port ∈ values, port.val < 2 ^ 16
  | _ => True

/-- The numbers of a mutation fit in the fields they go to. -/
def RoutingMutation.Fits : RoutingMutation → Prop
  | .createCustomPool _ _ _ selection | .updateCustomPool _ _ _ _ selection => selection.Fits
  | .createRoute _ _ matcher _ _ | .updateRoute _ _ _ matcher _ => matcher.Fits
  | _ => True

/-- A number fits below 2 to the 32. -/
theorem SafeInteger.toUInt32?_isSome {n : SafeInteger} :
    n.toUInt32?.isSome = true ↔ n.val < 2 ^ 32 := by
  rw [toUInt32?]
  by_cases h : n.val < 2 ^ 32 <;> simp

/-- Or below 2 to the 16. -/
theorem SafeInteger.toUInt16?_isSome {n : SafeInteger} :
    n.toUInt16?.isSome = true ↔ n.val < 2 ^ 16 := by
  rw [toUInt16?]
  by_cases h : n.val < 2 ^ 16 <;> simp

/-- `Fits` says when a selection is received. -/
theorem Selection.toDto_isSome {s : Selection} : s.toDto.isSome = true ↔ s.Fits := by
  cases s with
  | manual id => simp [toDto, Fits]
  | urlTest u i t => rw [toDto, Option.isSome_map, SafeInteger.toUInt32?_isSome, Fits]

/-- And when a matcher is. -/
theorem Matcher.toDto_isSome {m : Matcher} : m.toDto.isSome = true ↔ m.Fits := by
  cases m with
  | port values =>
    rw [toDto, Option.isSome_map, ProxyRouting.mapM_isSome, Fits]
    simp only [SafeInteger.toUInt16?_isSome]
  | _ => simp [toDto, Fits]

/-- And when a mutation is. -/
theorem RoutingMutation.toDto_isSome {m : RoutingMutation} : m.toDto.isSome = true ↔ m.Fits := by
  cases m with
  | createCustomPool _ _ _ selection =>
    rw [toDto, Option.isSome_map, Selection.toDto_isSome, Fits]
  | updateCustomPool _ _ _ _ selection =>
    rw [toDto, Option.isSome_map, Selection.toDto_isSome, Fits]
  | createRoute _ _ matcher _ _ => rw [toDto, Option.isSome_map, Matcher.toDto_isSome, Fits]
  | updateRoute _ _ _ matcher _ => rw [toDto, Option.isSome_map, Matcher.toDto_isSome, Fits]
  | _ => simp [toDto, Fits]

/-! ## The request -/

/-- **Spec.**  A request is received as what it becomes, if it becomes anything. -/
theorem decodeRequest_encode (revision : SafeInteger) (m : RoutingMutation) :
    RoutingWire.decodeRequest (mutateProxyRouting revision m) =
      m.toDto.map fun mutation => { expectedRevision := revision.toUInt64, mutation } := by
  have hknown : ((Json.ordered [("expectedRevision", revision.write),
      ("mutation", encodeProxyRoutingMutation m)]).all
      fun field => decide (field.1 ∈ ["expectedRevision", "mutation"])) = true :=
    List.all_eq_true.mpr fun field hfield => decide_eq_true (Json.mem_ordered hfield)
  rw [mutateProxyRouting, Json.object_eq, RoutingWire.decodeRequest, if_pos hknown,
    Json.lookup_ordered, Json.lookup_ordered]
  change ((RoutingWire.decodeMutation (encodeProxyRoutingMutation m)).bind fun mutation =>
    some (ProxyRouting.MutateRequest.mk revision.toUInt64 mutation)) = _
  rw [decodeMutation_encode]
  cases m.toDto <;> rfl

/-! ## Different requests are read differently -/

/-- The number as a script holds it, the greatest safe one for those beyond. -/
def SafeInteger.of (n : Nat) : SafeInteger :=
  ⟨min n Browser.maxSafeInteger, Nat.min_le_right n _⟩

theorem SafeInteger.of_val (n : SafeInteger) : SafeInteger.of n.val = n :=
  Subtype.ext (Nat.min_eq_left n.property)

/-- A number that fits is received as the same one. -/
theorem SafeInteger.of_toUInt32? {n : SafeInteger} {m : UInt32} (h : n.toUInt32? = some m) :
    SafeInteger.of m.toNat = n := by
  rw [toUInt32?] at h
  split at h
  · next hlt =>
    obtain rfl := Option.some.inj h
    rw [UInt32.toNat_ofNat_of_lt' hlt, of_val]
  · cases h

theorem SafeInteger.of_toUInt16? {n : SafeInteger} {m : UInt16} (h : n.toUInt16? = some m) :
    SafeInteger.of m.toNat = n := by
  rw [toUInt16?] at h
  split at h
  · next hlt =>
    obtain rfl := Option.some.inj h
    rw [UInt16.toNat_ofNat_of_lt' hlt, of_val]
  · cases h

/-- A selection as a script holds it. -/
def Selection.of : ProxyRouting.SelectionDto → Selection
  | .manual selectedNodeId => .manual selectedNodeId
  | .urlTest probeUrl intervalSeconds toleranceMs =>
    .urlTest probeUrl (.of intervalSeconds.toNat) (.of toleranceMs.toNat)

/-- A matcher as a script holds it. -/
def Matcher.of : ProxyRouting.MatcherDto → Matcher
  | .domain values => .domain values
  | .domainSuffix values => .domainSuffix values
  | .application values => .application values
  | .ipCidr values => .ipCidr values
  | .port values => .port (values.map fun port => .of port.toNat)
  | .protocol values => .protocol values

/-- A mutation as a script holds it. -/
def RoutingMutation.of : ProxyRouting.Mutation → RoutingMutation
  | .createCustomPool name enabled sources selection =>
    .createCustomPool name enabled sources (.of selection)
  | .updateCustomPool id name enabled sources selection =>
    .updateCustomPool id name enabled sources (.of selection)
  | .deleteCustomPool id => .deleteCustomPool id
  | .setManualSelection poolId nodeId => .setManualSelection poolId nodeId
  | .setDefaultTarget target => .setDefaultTarget target
  | .createRoute name enabled matcher target insertAt =>
    .createRoute name enabled (.of matcher) target (.of insertAt)
  | .updateRoute id name enabled matcher target => .updateRoute id name enabled (.of matcher) target
  | .deleteRoute id => .deleteRoute id
  | .reorderRoutes routeIds => .reorderRoutes routeIds
  | .applyConfiguration => .applyConfiguration

/-- A selection that is received is the one that was sent. -/
theorem Selection.of_toDto {s : Selection} {dto : ProxyRouting.SelectionDto}
    (h : s.toDto = some dto) : Selection.of dto = s := by
  cases s with
  | manual id =>
    obtain rfl := Option.some.inj h
    rfl
  | urlTest u i t =>
    obtain ⟨tolerance, htolerance, rfl⟩ := Option.map_eq_some_iff.mp h
    rw [Selection.of, SafeInteger.toNat_toUInt64, SafeInteger.of_val,
      SafeInteger.of_toUInt32? htolerance]

/-- So are ports. -/
theorem ports_of_toUInt16? {values : List SafeInteger} {ports : List UInt16}
    (h : values.mapM SafeInteger.toUInt16? = some ports) :
    ports.map (fun port => SafeInteger.of port.toNat) = values := by
  induction values generalizing ports with
  | nil =>
    obtain rfl := Option.some.inj h
    rfl
  | cons n values ih =>
    rw [List.mapM_cons] at h
    obtain ⟨port, hport, h⟩ := Option.bind_eq_some_iff.mp h
    obtain ⟨rest, hrest, h⟩ := Option.bind_eq_some_iff.mp h
    obtain rfl := Option.some.inj h
    rw [List.map_cons, SafeInteger.of_toUInt16? hport, ih hrest]

/-- So is a matcher. -/
theorem Matcher.of_toDto {m : Matcher} {dto : ProxyRouting.MatcherDto} (h : m.toDto = some dto) :
    Matcher.of dto = m := by
  cases m with
  | port values =>
    obtain ⟨ports, hports, rfl⟩ := Option.map_eq_some_iff.mp h
    rw [Matcher.of, ports_of_toUInt16? hports]
  | _ =>
    obtain rfl := Option.some.inj h
    rfl

/-- What the backend reads tells which mutation was built. -/
theorem RoutingMutation.of_toDto {m : RoutingMutation} {dto : ProxyRouting.Mutation}
    (h : m.toDto = some dto) : RoutingMutation.of dto = m := by
  cases m with
  | createCustomPool _ _ _ selection =>
    obtain ⟨read, hread, rfl⟩ := Option.map_eq_some_iff.mp h
    rw [RoutingMutation.of, Selection.of_toDto hread]
  | updateCustomPool _ _ _ _ selection =>
    obtain ⟨read, hread, rfl⟩ := Option.map_eq_some_iff.mp h
    rw [RoutingMutation.of, Selection.of_toDto hread]
  | createRoute _ _ matcher _ insertAt =>
    obtain ⟨read, hread, rfl⟩ := Option.map_eq_some_iff.mp h
    rw [RoutingMutation.of, Matcher.of_toDto hread, SafeInteger.of_val]
  | updateRoute _ _ _ matcher _ =>
    obtain ⟨read, hread, rfl⟩ := Option.map_eq_some_iff.mp h
    rw [RoutingMutation.of, Matcher.of_toDto hread]
  | _ =>
    obtain rfl := Option.some.inj h
    rfl

/-- **Every request of the pages** is read by the backend as it was built: it is refused exactly
when a tolerance or a port is too great for its field, and no two requests are read as one. -/
theorem routing_request_received (revision : SafeInteger) (m : RoutingMutation) :
    ((∃ request, RoutingWire.decodeRequest (mutateProxyRouting revision m) = some request) ↔
        m.Fits) ∧
      ∀ request, RoutingWire.decodeRequest (mutateProxyRouting revision m) = some request →
        m.toDto = some request.mutation ∧ request.expectedRevision.toNat = revision.val ∧
        ∀ revision' m', RoutingWire.decodeRequest (mutateProxyRouting revision' m') = some request →
          revision' = revision ∧ m' = m := by
  have hread : ∀ r m request, RoutingWire.decodeRequest (mutateProxyRouting r m) = some request →
      RoutingMutation.toDto m = some request.mutation ∧
        request.expectedRevision.toNat = r.val := by
    intro r m request h
    rw [decodeRequest_encode] at h
    obtain ⟨mutation, hmutation, rfl⟩ := Option.map_eq_some_iff.mp h
    exact ⟨hmutation, r.toNat_toUInt64⟩
  constructor
  · rw [← RoutingMutation.toDto_isSome, decodeRequest_encode, ← Option.isSome_iff_exists,
      Option.isSome_map]
  · intro request h
    obtain ⟨hdto, hrevision⟩ := hread revision m request h
    refine ⟨hdto, hrevision, fun revision' m' h' => ?_⟩
    obtain ⟨hdto', hrevision'⟩ := hread revision' m' request h'
    constructor
    · exact Subtype.ext (hrevision'.symm.trans hrevision)
    · rw [← RoutingMutation.of_toDto hdto', RoutingMutation.of_toDto hdto]

end Veyra.Frontend
