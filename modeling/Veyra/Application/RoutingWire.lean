import Veyra.Application.RoutingSnapshot
import Veyra.Lib.Strict

/-!
# Veyra.Application.RoutingWire

The requests and responses of `proxy_routing` as they are read and written: the derived
serializers of the transfer types, with the names of their fields in camel case and unknown
fields denied.

`decodeRequest` reads the argument of `mutate_proxy_routing`.
-/

namespace Veyra.RoutingWire

open Codec RecordCodec ProxyRouting

/-- A field that must be there. -/
abbrev field {α : Type} (name : String) (c : Codec α) : RecordCodec α :=
  RecordCodec.required name c

/-! ## Enumerations -/

def protocols : List ProxyProtocol :=
  [.socks, .http, .shadowsocks, .vmess, .vless, .trojan, .wireGuard, .hysteria, .hysteria2, .tuic,
   .shadowTls, .ssh, .naive, .anyTls, .snell]

/-- `ProxyProtocolDto`. -/
def protocolName : ProxyProtocol → String
  | .socks => "socks"
  | .http => "http"
  | .shadowsocks => "shadowsocks"
  | .vmess => "vmess"
  | .vless => "vless"
  | .trojan => "trojan"
  | .wireGuard => "wireGuard"
  | .hysteria => "hysteria"
  | .hysteria2 => "hysteria2"
  | .tuic => "tuic"
  | .shadowTls => "shadowTls"
  | .ssh => "ssh"
  | .naive => "naive"
  | .anyTls => "anyTls"
  | .snell => "snell"

def protocol : Codec ProxyProtocol := named protocols protocolName (by rintro (_ | _) <;> rfl)

/-- `NetworkProtocolDto`. -/
def networkName : NetworkProtocol → String
  | .tcp => "tcp"
  | .udp => "udp"

def network : Codec NetworkProtocol := named [.tcp, .udp] networkName (by rintro (_ | _) <;> rfl)

/-! ## Sources and selections -/

def nodeFilter : RecordCodec NodeFilterDto :=
  RecordCodec.imap
    ((field "regions" (list string)).and <|
      (field "protocols" (list protocol)).and <|
      (field "includeKeywords" (list string)).and <|
      (field "excludeKeywords" (list string)).and <|
      (field "includeNodeIds" (list string)).and <|
      field "excludeNodeIds" (list string))
    (fun (regions, protocols, includeKeywords, excludeKeywords, includeNodeIds, excludeNodeIds) =>
      { regions, protocols, includeKeywords, excludeKeywords, includeNodeIds, excludeNodeIds })
    (fun f => (f.regions, f.protocols, f.includeKeywords, f.excludeKeywords, f.includeNodeIds,
      f.excludeNodeIds))
    (fun _ => rfl)

def poolSource : RecordCodec PoolSourceDto :=
  RecordCodec.imap
    ((field "providerId" string).and <| field "filter" nodeFilter.strict)
    (fun (providerId, filter) => { providerId, filter })
    (fun s => (s.providerId, s.filter)) (fun _ => rfl)

def manualFields : RecordCodec (Option String) := optional "selectedNodeId" string string_nonNull

def urlTestFields : RecordCodec (String × UInt64 × UInt32) :=
  (field "probeUrl" string).and <| (field "intervalSeconds" u64).and <|
    field "toleranceMs" u32

def selection : Codec SelectionDto :=
  tagged "type"
    (fun | .manual _ => "manual" | .urlTest .. => "urlTest")
    (fun
      | .manual selectedNodeId => manualFields.write selectedNodeId
      | .urlTest probeUrl intervalSeconds toleranceMs =>
        urlTestFields.write (probeUrl, intervalSeconds, toleranceMs))
    (fun tag source => match tag with
      | "manual" => (manualFields.readStrict ["type"] source).map .manual
      | "urlTest" => (urlTestFields.readStrict ["type"] source).map fun (u, i, t) => .urlTest u i t
      | _ => none)
    (by
      rintro (id | ⟨u, i, t⟩) ms h
      · simp only [readStrict_beside (by decide) h, Option.map_some]
      · simp only [readStrict_beside (by decide) h, Option.map_some])

/-! ## Matchers and targets -/

def matcherTag : MatcherDto → String
  | .domain _ => "domain"
  | .domainSuffix _ => "domainSuffix"
  | .application _ => "application"
  | .ipCidr _ => "ipCidr"
  | .port _ => "port"
  | .protocol _ => "protocol"

def writeMatcher : MatcherDto → Json
  | .domain values | .domainSuffix values | .application values | .ipCidr values =>
    (list string).encode values
  | .port values => (list u16).encode values
  | .protocol values => (list network).encode values

def readMatcher (tag : String) (values : Json) : Option MatcherDto :=
  match tag with
  | "domain" => ((list string).decode values).map .domain
  | "domainSuffix" => ((list string).decode values).map .domainSuffix
  | "application" => ((list string).decode values).map .application
  | "ipCidr" => ((list string).decode values).map .ipCidr
  | "port" => ((list u16).decode values).map .port
  | "protocol" => ((list network).decode values).map .protocol
  | _ => none

theorem readMatcher_write (m : MatcherDto) : readMatcher (matcherTag m) (writeMatcher m) = some m := by
  cases m <;>
    simp only [matcherTag, writeMatcher, readMatcher, decode_encode, Option.map_some]

def matcher : Codec MatcherDto :=
  adjacentStrict "type" "values" matcherTag (fun m => some (writeMatcher m))
    (fun tag values => values.bind (readMatcher tag)) (by decide) readMatcher_write

def poolField : RecordCodec String := field "poolId" string

/-- A unit variant reads nothing of what stands beside its tag. -/
def defaultTarget : Codec DefaultTargetDto :=
  tagged "type"
    (fun
      | .followActiveSubscription => "followActiveSubscription"
      | .pool _ => "pool"
      | .direct => "direct"
      | .block => "block")
    (fun | .pool poolId => poolField.write poolId | _ => [])
    (fun tag source => match tag with
      | "followActiveSubscription" =>
        (RecordCodec.unit.read source).map fun _ => .followActiveSubscription
      | "pool" => (poolField.readStrict ["type"] source).map .pool
      | "direct" => (RecordCodec.unit.read source).map fun _ => .direct
      | "block" => (RecordCodec.unit.read source).map fun _ => .block
      | _ => none)
    (by
      rintro (_ | id | _ | _) ms h
      · rfl
      · simp only [readStrict_beside (by decide) h, Option.map_some]
      · rfl
      · rfl)

def routeTarget : Codec RouteTargetDto :=
  tagged "type"
    (fun | .pool _ => "pool" | .direct => "direct" | .block => "block")
    (fun | .pool poolId => poolField.write poolId | _ => [])
    (fun tag source => match tag with
      | "pool" => (poolField.readStrict ["type"] source).map .pool
      | "direct" => (RecordCodec.unit.read source).map fun _ => .direct
      | "block" => (RecordCodec.unit.read source).map fun _ => .block
      | _ => none)
    (by
      rintro (id | _ | _) ms h
      · simp only [readStrict_beside (by decide) h, Option.map_some]
      · rfl
      · rfl)

/-! ## Mutations -/

/-- An index in memory, which is at most 64 bits wide. -/
def usize : Codec (Fin (2 ^ 64)) :=
  u64.imap UInt64.toFin UInt64.ofFin fun _ => rfl

/-- The fields of a pool. -/
def poolFields : RecordCodec (String × Bool × List PoolSourceDto × SelectionDto) :=
  (field "name" string).and <| (field "enabled" bool).and <|
    (field "sources" (list poolSource.strict)).and <| field "selection" selection

/-- The fields of a route. -/
def routeFields : RecordCodec (String × Bool × MatcherDto × RouteTargetDto) :=
  (field "name" string).and <| (field "enabled" bool).and <|
    (field "matcher" matcher).and <| field "target" routeTarget

def idField : RecordCodec String := field "id" string

def nodeFields : RecordCodec (String × String) := poolField.and <| field "nodeId" string

def targetField : RecordCodec DefaultTargetDto := field "target" defaultTarget

def insertField : RecordCodec (Fin (2 ^ 64)) := field "insertAt" usize

def orderField : RecordCodec (List String) := field "routeIds" (list string)

/-- The variants of `ProxyRoutingMutation` by their tags. -/
def readMutation (tag : String) (source : Source) : Option Mutation :=
  match tag with
  | "createCustomPool" =>
    (poolFields.readStrict ["type"] source).map fun (name, enabled, sources, selection) =>
      .createCustomPool name enabled sources selection
  | "updateCustomPool" =>
    ((idField.and poolFields).readStrict ["type"] source).map
      fun (id, name, enabled, sources, selection) =>
        .updateCustomPool id name enabled sources selection
  | "deleteCustomPool" => (idField.readStrict ["type"] source).map .deleteCustomPool
  | "setManualSelection" =>
    (nodeFields.readStrict ["type"] source).map fun (poolId, nodeId) =>
      .setManualSelection poolId nodeId
  | "setDefaultTarget" => (targetField.readStrict ["type"] source).map .setDefaultTarget
  | "createRoute" =>
    ((routeFields.and insertField).readStrict ["type"] source).map
      fun ((name, enabled, matcher, target), insertAt) =>
        .createRoute name enabled matcher target insertAt
  | "updateRoute" =>
    ((idField.and routeFields).readStrict ["type"] source).map
      fun (id, name, enabled, matcher, target) => .updateRoute id name enabled matcher target
  | "deleteRoute" => (idField.readStrict ["type"] source).map .deleteRoute
  | "reorderRoutes" => (orderField.readStrict ["type"] source).map .reorderRoutes
  | "applyConfiguration" => (RecordCodec.unit.read source).map fun _ => .applyConfiguration
  | _ => none

/-- `ProxyRoutingMutation`. -/
def decodeMutation : Json → Option Mutation
  | .obj ms =>
    ((ms.lookup "type").bind Json.asStr?).bind fun tag => readMutation tag (.members ms)
  | .arr (.str tag :: vs) => readMutation tag (.items vs)
  | _ => none

/-- `MutateProxyRoutingRequest`. -/
def decodeRequest : Json → Option MutateRequest
  | .obj ms =>
    if ms.all fun m => decide (m.1 ∈ ["expectedRevision", "mutation"]) then do
      let expectedRevision ← (ms.lookup "expectedRevision").bind Json.asU64?
      let mutation ← (ms.lookup "mutation").bind decodeMutation
      some { expectedRevision, mutation }
    else none
  | .arr [revision, mutation] => do
    let expectedRevision ← revision.asU64?
    let mutation ← decodeMutation mutation
    some { expectedRevision, mutation }
  | _ => none

end Veyra.RoutingWire
