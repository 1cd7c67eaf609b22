import Veyra.Application.Projection
import Veyra.Singbox.NodeCheck

/-!
# Veyra.Singbox.Compiler

`SingBoxCompiler::compile`: from the runtime intent to the configuration
document of the core, with the closed document model, the emission of nodes,
pools and routes, and `Document::validate`, which looks at the finished
document again.

The parser of probe URLs is a parameter, and so is the JSON text that
`finalize` writes and reads back.
-/

namespace Veyra

open Check

def dnsTag : String := "dns-system"
def apiAddress : String := "127.0.0.1:9090"

/-! ## The document -/

/-- `Reality`. -/
structure Reality where
  enabled : Bool
  publicKey : String
  shortId : String
deriving DecidableEq, Repr

/-- `CoreUtls`. -/
structure CoreUtls where
  enabled : Bool
  fingerprint : Option String
deriving DecidableEq, Repr

/-- `CoreTls`. -/
structure CoreTls where
  enabled : Bool
  insecure : Bool
  serverName : Option String
  alpn : List String
  reality : Option Reality
  utls : Option CoreUtls
deriving DecidableEq, Repr

/-- `CoreTransport`; the headers of a websocket hold the host alone. -/
inductive CoreTransport
  | websocket (path : String) (headers : Option String) (maxEarlyData : Option UInt32)
      (earlyDataHeaderName : Option String)
  | grpc (serviceName : String)
deriving DecidableEq, Repr

/-- `Obfuscation`. -/
structure Obfuscation where
  kind : String
  password : String
deriving DecidableEq, Repr

/-- What each `node_options!` structure has beyond the fields that all of them share. -/
inductive CoreOptions
  | socks (version : String) (username password : Option String)
  | http (username password : Option String)
  | shadowsocks (method password : String)
  | vmess (uuid : String) (alterId : Option UInt32) (security : Option String)
  | vless (uuid : String) (flow : Option String)
  | trojan (password : String)
  | hysteria (authStr : String) (upMbps downMbps : UInt32) (obfs : Option String)
  | hysteria2 (password : String) (obfs : Option Obfuscation) (upMbps downMbps : Option UInt32)
      (disablePathMtuDiscovery : Option Bool)
  | tuic (uuid password : String) (zeroRttHandshake : Bool)
      (congestionControl udpRelayMode : Option String)
  | shadowtls (version : UInt8) (password : String)
  | ssh (user : String) (password privateKey privateKeyPassphrase hostKey : Option String)
  | naive (username password : String)
  | anytls (password : String)
  | snell (psk : String) (version : UInt8)
deriving DecidableEq, Repr

/-- The outbound of a node: the shared fields of `node_options!`, and the others. -/
structure CoreNode where
  tag : String
  server : String
  serverPort : UInt16
  tls : Option CoreTls
  transport : Option CoreTransport
  options : CoreOptions
deriving DecidableEq, Repr

/-- `Selector`. -/
structure Selector where
  tag : String
  outbounds : List String
  default : Option String
deriving DecidableEq, Repr

/-- `UrlTest`. -/
structure UrlTest where
  tag : String
  outbounds : List String
  url : String
  interval : String
  tolerance : UInt32
deriving DecidableEq, Repr

/-- `CoreOutbound`; the fourteen kinds of nodes are one constructor. -/
inductive CoreOutbound
  | node (node : CoreNode)
  | direct (tag : String)
  | block (tag : String)
  | selector (pool : Selector)
  | urltest (pool : UrlTest)
deriving DecidableEq, Repr

/-- `WireGuardPeer`. -/
structure WireGuardPeer where
  address : String
  port : UInt16
  publicKey : String
  preSharedKey : Option String
  reserved : Option (UInt8 × UInt8 × UInt8)
  allowedIps : List String
deriving DecidableEq, Repr

/-- `WireGuardEndpoint`. -/
structure WireGuardEndpoint where
  kind : String
  tag : String
  system : Bool
  address : List String
  privateKey : String
  mtu : Option UInt32
  peers : List WireGuardPeer
deriving DecidableEq, Repr

/-- `CoreRule`. -/
structure CoreRule where
  inbound : Option (List String) := none
  action : Option String := none
  outbound : Option String := none
  domain : Option (List String) := none
  domainSuffix : Option (List String) := none
  processName : Option (List String) := none
  ipCidr : Option (List String) := none
  port : Option (List UInt16) := none
  network : Option (List NetworkProtocol) := none
deriving DecidableEq, Repr

/-- `DnsServer`. -/
structure DnsServer where
  kind : String
  tag : String
deriving DecidableEq, Repr

/-- `DnsConfig`. -/
structure DnsConfig where
  servers : List DnsServer
  finalServer : String
  rules : List CoreRule
deriving DecidableEq, Repr

/-- `RouteConfig`. -/
structure RouteConfig where
  rules : List CoreRule
  finalOutbound : String
  defaultDomainResolver : String
deriving DecidableEq, Repr

/-- `ClashApi`. -/
structure ClashApi where
  externalController : String
  secret : String
deriving DecidableEq, Repr

/-- `Document`; outside of tests an inbound is the unit value. -/
structure Document where
  logDisabled : Bool
  dns : DnsConfig
  inbounds : List Unit
  outbounds : List CoreOutbound
  endpoints : List WireGuardEndpoint
  route : RouteConfig
  clashApi : ClashApi
deriving DecidableEq, Repr

/-! ## Rules -/

/-- `CoreRule::reject`. -/
def CoreRule.reject (tags : List String) : CoreRule :=
  { inbound := some tags, action := some "reject" }

/-- `CoreRule::matcher_count`. -/
def CoreRule.matcherCount (r : CoreRule) : Nat :=
  ([r.domain.isSome, r.domainSuffix.isSome, r.processName.isSome, r.ipCidr.isSome,
    r.port.isSome, r.network.isSome].filter id).length

/-- `CoreRule::is_ingress_reject`. -/
def CoreRule.isIngressReject (r : CoreRule) (tags : List String) : Bool :=
  r.inbound = some tags && r.action = some "reject" && r.outbound.isNone && r.matcherCount == 0

/-! ## Tags -/

/-- `node_tag`. -/
def nodeTag (id : String) : String := "node-" ++ id

/-- `pool_tag`. -/
def poolTag (id : String) : String := "pool-" ++ id

/-- `valid_tag`. -/
def validTag (tag pre : String) : Bool := (Text.stripPrefix pre tag).any present

/-- `CoreOutbound::tag`. -/
def CoreOutbound.tag : CoreOutbound → String
  | .node n => n.tag
  | .direct tag | .block tag => tag
  | .selector pool => pool.tag
  | .urltest pool => pool.tag

/-! ## Nodes -/

/-- `core_tls`. -/
def coreTls (node : ProxyNode) : Option CoreTls :=
  match node.tls with
  | some tls => some
      { enabled := true
        insecure := tls.allowInsecure
        serverName := tls.serverName
        alpn := tls.alpn
        reality := tls.realityPublicKey.bind fun key => tls.realityShortId.map fun shortId =>
          { enabled := true, publicKey := key, shortId }
        utls := if tls.realityPublicKey.isSome || tls.utlsFingerprint.isSome then
          some { enabled := true, fingerprint := tls.utlsFingerprint } else none }
  | none =>
    match node.options with
    | .http _ _ true => some
        { enabled := true, insecure := false, serverName := none, alpn := []
          reality := none, utls := none }
    | _ => none

/-- `core_transport`. -/
def coreTransport : Option Transport → Option CoreTransport
  | none | some .tcp => none
  | some (.websocket path host maxEarlyData headerName) =>
    some (.websocket path host maxEarlyData headerName)
  | some (.grpc serviceName) => some (.grpc serviceName)

/-- The fields of its own that the outbound of a node has. -/
def coreOptions : ProtocolOptions → Except CompileError CoreOptions
  | .socks version username password => .ok (.socks (toString version.toNat) username password)
  | .http username password _ => .ok (.http username password)
  | .shadowsocks method password => .ok (.shadowsocks method password)
  | .vmess uuid alterId security => .ok (.vmess uuid alterId security)
  | .vless uuid flow => .ok (.vless uuid flow)
  | .trojan password => .ok (.trojan password)
  | .hysteria auth obfs upMbps downMbps => do
    let up ← okOr upMbps .invalidNodeConfiguration
    let down ← okOr downMbps .invalidNodeConfiguration
    .ok (.hysteria auth up down obfs)
  | .hysteria2 password obfs upMbps downMbps discovery =>
    .ok (.hysteria2 password (obfs.map fun password => ⟨"salamander", password⟩) upMbps downMbps
      discovery)
  | .tuic uuid password congestionControl udpRelayMode zeroRtt =>
    .ok (.tuic uuid password zeroRtt congestionControl udpRelayMode)
  | .shadowTls version password => .ok (.shadowtls version password)
  | .ssh user password privateKey passphrase hostKey =>
    .ok (.ssh user password privateKey passphrase hostKey)
  | .naive username password => .ok (.naive username password)
  | .anyTls password => .ok (.anytls password)
  | .snell psk version => .ok (.snell psk version)
  | .wireGuard .. => .error .unsupportedNodeProtocol

/-- `node_outbound`. -/
def nodeOutbound (node : ProxyNode) : Except CompileError CoreOutbound := do
  let options ← coreOptions node.options
  .ok (.node
    { tag := nodeTag node.id.val, server := node.server, serverPort := node.port
      tls := coreTls node, transport := coreTransport node.transport, options })

/-- `wireguard_endpoint`. -/
def wireguardEndpoint (node : ProxyNode) : Except CompileError WireGuardEndpoint :=
  match node.options with
  | .wireGuard privateKey peerPublicKey preSharedKey localAddresses mtu reserved =>
    .ok { kind := "wireguard", tag := nodeTag node.id.val, system := false
          address := localAddresses, privateKey, mtu
          peers := [{ address := node.server, port := node.port, publicKey := peerPublicKey
                      preSharedKey, reserved, allowedIps := ["0.0.0.0/0", "::/0"] }] }
  | _ => .error .invalidNodeConfiguration

/-! ## Nodes are read back -/

/-- The Reality and uTLS settings that go together. -/
def CoreTls.consistent (tls : CoreTls) : Bool :=
  match tls.reality, tls.utls with
  | none, none => true
  | none, some utls => utls.enabled && utls.fingerprint.isSome
  | some reality, some utls => reality.enabled && utls.enabled
  | some _, none => false

/-- `CoreTls::domain`. -/
def CoreTls.domain (tls : CoreTls) : Except CompileError TlsOptions := do
  reject (!tls.enabled || !tls.consistent) .invalidFinalConfiguration
  .ok { serverName := tls.serverName, allowInsecure := tls.insecure, alpn := tls.alpn
        utlsFingerprint := tls.utls.bind (·.fingerprint)
        realityPublicKey := tls.reality.map (·.publicKey)
        realityShortId := tls.reality.map (·.shortId) }

/-- `CoreTransport::domain`. -/
def CoreTransport.domain : CoreTransport → Transport
  | .websocket path headers maxEarlyData headerName =>
    .websocket path headers maxEarlyData headerName
  | .grpc serviceName => .grpc serviceName

/-- The protocol of an outbound and its options in the domain; `hasTls` says whether the
outbound has TLS settings. -/
def CoreOptions.domain (hasTls : Bool) :
    CoreOptions → Except CompileError (ProxyProtocol × ProtocolOptions)
  | .socks version username password => do
    let version ← okOr (Text.parseU8 version) .invalidNodeConfiguration
    .ok (.socks, .socks version username password)
  | .http username password => .ok (.http, .http username password hasTls)
  | .shadowsocks method password => .ok (.shadowsocks, .shadowsocks method password)
  | .vmess uuid alterId security => .ok (.vmess, .vmess uuid alterId security)
  | .vless uuid flow => .ok (.vless, .vless uuid flow)
  | .trojan password => .ok (.trojan, .trojan password)
  | .hysteria auth up down obfs => .ok (.hysteria, .hysteria auth obfs (some up) (some down))
  | .hysteria2 password obfs upMbps downMbps discovery => do
    reject (obfs.any (·.kind != "salamander")) .invalidFinalConfiguration
    .ok (.hysteria2, .hysteria2 password (obfs.map (·.password)) upMbps downMbps discovery)
  | .tuic uuid password zeroRtt congestionControl udpRelayMode =>
    .ok (.tuic, .tuic uuid password congestionControl udpRelayMode zeroRtt)
  | .shadowtls version password => .ok (.shadowTls, .shadowTls version password)
  | .ssh user password privateKey passphrase hostKey =>
    .ok (.ssh, .ssh user password privateKey passphrase hostKey)
  | .naive username password => .ok (.naive, .naive username password)
  | .anytls password => .ok (.anyTls, .anyTls password)
  | .snell psk version => .ok (.snell, .snell psk version)

/-- An optional value through a fallible function: `map(..).transpose()`. -/
def transposeMap {α β ε : Type} (f : α → Except ε β) : Option α → Except ε (Option β)
  | none => .ok none
  | some a => (f a).map some

/-- The arm of `CoreOutbound::domain` for the outbound of a node. -/
def CoreNode.domain (node : CoreNode) : Except CompileError ProxyNode := do
  let (protocol, options) ← node.options.domain node.tls.isSome
  let id ← okOr (Text.stripPrefix "node-" node.tag) .invalidFinalConfiguration
  let tls ← transposeMap CoreTls.domain node.tls
  .ok { id := ⟨id⟩, providerId := ⟨"compiler"⟩, name := "", protocol
        server := node.server, port := node.serverPort, options
        tls, transport := node.transport.map (·.domain) }

/-- `CoreOutbound::domain`. -/
def CoreOutbound.domain : CoreOutbound → Except CompileError (Option ProxyNode)
  | .node n => n.domain.map some
  | _ => .ok none

/-- The node that an endpoint with the given peer stands for. -/
def WireGuardEndpoint.domain (endpoint : WireGuardEndpoint) (peer : WireGuardPeer) : ProxyNode :=
  { id := ⟨String.ofList (endpoint.tag.toList.drop 5)⟩, providerId := ⟨"compiler"⟩, name := ""
    protocol := .wireGuard, server := peer.address, port := peer.port
    options := .wireGuard endpoint.privateKey peer.publicKey peer.preSharedKey endpoint.address
      endpoint.mtu peer.reserved
    tls := none, transport := none }

/-! ## The validation of a document -/

/-- The parts of a parsed URL that the compiler looks at. -/
structure UrlParts where
  scheme : String
  host : Option String
deriving DecidableEq, Repr

/-- `reqwest::Url::parse`. -/
structure CompilerEnv where
  parseUrl : String → Option UrlParts

/-- `valid_probe_url` of the compiler. -/
def CompilerEnv.validProbeUrl (env : CompilerEnv) (value : String) : Bool :=
  (env.parseUrl value).any fun url => (url.scheme = "http" || url.scheme = "https") && url.host.isSome

/-- `valid_secret`. -/
def validSecret (secret : String) : Bool :=
  Text.len secret == 64 && (Text.bytes secret).all fun b =>
    isAsciiHexByte b && !(0x41 ≤ b && b ≤ 0x5a)

/-- What the loops of `validate_standard` collect. -/
structure Scan where
  tags : List String := []
  nodeTags : List String := []
  poolTags : List String := []
  directCount : Nat := 0
  blockCount : Nat := 0

/-- The match of the loop over the outbounds, for one that is no node. -/
def Scan.terminal (scan : Scan) : CoreOutbound → Except CompileError Scan
  | .direct tag => do
    reject (tag != "direct") .invalidFinalConfiguration
    .ok { scan with directCount := scan.directCount + 1 }
  | .block tag => do
    reject (tag != "block") .invalidFinalConfiguration
    .ok { scan with blockCount := scan.blockCount + 1 }
  | .selector pool => do
    reject (!validTag pool.tag "pool-") .invalidFinalConfiguration
    .ok { scan with poolTags := pool.tag :: scan.poolTags }
  | .urltest pool => do
    reject (!validTag pool.tag "pool-") .invalidFinalConfiguration
    .ok { scan with poolTags := pool.tag :: scan.poolTags }
  | .node _ => .error .invalidFinalConfiguration

/-- The body of the loop over the outbounds, once the tag is new. -/
def Scan.classify (scan : Scan) (outbound : CoreOutbound) :
    Option ProxyNode → Except CompileError Scan
  | some node => do
    validateNode node
    .ok { scan with nodeTags := outbound.tag :: scan.nodeTags }
  | none => scan.terminal outbound

/-- The body of the loop over the outbounds. -/
def Scan.outbound (scan : Scan) (outbound : CoreOutbound) : Except CompileError Scan := do
  reject (scan.tags.contains outbound.tag) .invalidFinalConfiguration
  let node ← outbound.domain
  Scan.classify { scan with tags := outbound.tag :: scan.tags } outbound node

/-- The loop over the outbounds. -/
def Scan.outbounds (scan : Scan) (outbounds : List CoreOutbound) : Except CompileError Scan :=
  outbounds.foldlM Scan.outbound scan

/-- The peer of an endpoint, which has exactly one, that routes everything. -/
def WireGuardEndpoint.peer (endpoint : WireGuardEndpoint) : Except CompileError WireGuardPeer :=
  match endpoint.peers with
  | [peer] => do
    reject (peer.allowedIps ≠ ["0.0.0.0/0", "::/0"]) .invalidFinalConfiguration
    .ok peer
  | _ => .error .invalidFinalConfiguration

/-- The body of the loop over the endpoints. -/
def Scan.endpoint (scan : Scan) (endpoint : WireGuardEndpoint) : Except CompileError Scan := do
  reject (endpoint.kind != "wireguard" || endpoint.system || !validTag endpoint.tag "node-" ||
    scan.tags.contains endpoint.tag) .invalidFinalConfiguration
  let peer ← endpoint.peer
  validateNode (endpoint.domain peer)
  .ok { scan with tags := endpoint.tag :: scan.tags, nodeTags := endpoint.tag :: scan.nodeTags }

/-- The loop over the endpoints. -/
def Scan.endpoints (scan : Scan) (endpoints : List WireGuardEndpoint) :
    Except CompileError Scan :=
  endpoints.foldlM Scan.endpoint scan

/-- `validate_members`. -/
def validateMembers (members nodeTags : List String) : Except CompileError Unit := do
  reject members.isEmpty .emptyPoolMembership
  reject (members.any (!nodeTags.contains ·) || !decide members.Nodup) .invalidRouteTarget

/-- The body of the second loop over the outbounds, which looks at the groups. -/
def validateGroup (env : CompilerEnv) (nodeTags : List String) :
    CoreOutbound → Except CompileError Unit
  | .selector pool => do
    validateMembers pool.outbounds nodeTags
    reject (pool.default.any (!pool.outbounds.contains ·)) .invalidRouteTarget
  | .urltest pool => do
    validateMembers pool.outbounds nodeTags
    let seconds := (Text.stripSuffixChar 's' pool.interval).bind Text.parseU64
    reject (!env.validProbeUrl pool.url || !seconds.any (· > 0)) .invalidNodeConfiguration
  | _ => .ok ()

/-- The outbounds that a rule may name. -/
def validOutbound (poolTags : List String) (target : String) : Bool :=
  target = "direct" || target = "block" || poolTags.contains target

/-- The texts of a matcher: some, all of them present. -/
def validTexts (values : List String) : Bool := !values.isEmpty && values.all present

/-- The body of the loop over the user rules. -/
def validateRule (poolTags : List String) (rule : CoreRule) : Except CompileError Unit := do
  reject (rule.inbound.isSome || rule.action.isSome || rule.matcherCount != 1 ||
    !rule.outbound.any (validOutbound poolTags)) .invalidRouteTarget
  reject (!([rule.domain, rule.domainSuffix, rule.processName].all (·.all validTexts)))
    .invalidFinalConfiguration
  reject (rule.ipCidr.any (fun values => values.isEmpty || values.any (!validPrefix ·)) ||
    rule.port.any (fun ports => ports.isEmpty || ports.contains 0) ||
    rule.network.any (·.isEmpty)) .invalidFinalConfiguration

/-- The rules of the user: what follows the fence, which must be there exactly when there is
an endpoint. -/
def Document.userRules (d : Document) (ingress : List String) :
    Except CompileError (List CoreRule) :=
  if ingress.isEmpty then do
    reject (!d.dns.rules.isEmpty) .invalidFinalConfiguration
    .ok d.route.rules
  else match d.dns.rules, d.route.rules with
    | [dnsRule], routeRule :: rest => do
      reject (!dnsRule.isIngressReject ingress || !routeRule.isIngressReject ingress)
        .invalidFinalConfiguration
      .ok rest
    | _, _ => .error .invalidFinalConfiguration

/-- The settings that never vary, and the secret, which is there once an instance is bound. -/
def Document.isStandard (d : Document) (bound : Bool) : Bool :=
  d.inbounds.isEmpty && d.logDisabled && d.clashApi.externalController = apiAddress &&
    (if bound then validSecret d.clashApi.secret else d.clashApi.secret = "") &&
    d.dns.servers = [⟨"local", dnsTag⟩] && d.dns.finalServer = dnsTag &&
    d.route.defaultDomainResolver = dnsTag

/-- `Document::validate`, which outside of tests is `validate_standard`. -/
def Document.validate (env : CompilerEnv) (d : Document) (bound : Bool) :
    Except CompileError Unit := do
  reject (!d.isStandard bound) .invalidFinalConfiguration
  let scan ← Scan.outbounds {} d.outbounds
  let scan ← scan.endpoints d.endpoints
  let ingress := Sorted.sortBy (fun tag => tag) (d.endpoints.map (·.tag))
  reject (scan.directCount != 1 || scan.blockCount != 1 || scan.nodeTags.isEmpty ||
    !validOutbound scan.poolTags d.route.finalOutbound) .invalidRouteTarget
  each (validateGroup env scan.nodeTags) d.outbounds
  let userRules ← d.userRules ingress
  each (validateRule scan.poolTags) userRules

/-! ## The compiler -/

/-- The outbound that the default target becomes. -/
def finalTag (pools : List RuntimePool) : RouteTarget → Except CompileError String
  | .pool id =>
    if pools.any (·.id = id) then .ok (poolTag id.val) else .error .invalidRouteTarget
  | .direct => .ok "direct"
  | .block => .ok "block"
  | .unconfigured => .error .invalidRouteTarget

/-- The loop over the nodes: the outbounds and the endpoints. -/
def emitNodes : List ProxyNode → Except CompileError (List CoreOutbound × List WireGuardEndpoint)
  | [] => .ok ([], [])
  | node :: rest => do
    validateNode node
    if node.protocol = .wireGuard then do
      let endpoint ← wireguardEndpoint node
      let (outbounds, endpoints) ← emitNodes rest
      .ok (outbounds, endpoint :: endpoints)
    else do
      let outbound ← nodeOutbound node
      let (outbounds, endpoints) ← emitNodes rest
      .ok (outbound :: outbounds, endpoints)

/-- The group of a pool with the given members. -/
def poolOutbound (pool : RuntimePool) (members : List String) : CoreOutbound :=
  match pool.selection with
  | .manual selectedNodeId => .selector
      { tag := poolTag pool.id.val, outbounds := members
        default := selectedNodeId.map fun id => nodeTag id.val }
  | .urlTest probeUrl intervalSecs toleranceMs => .urltest
      { tag := poolTag pool.id.val, outbounds := members, url := probeUrl
        interval := (toString intervalSecs.toNat).push 's', tolerance := toleranceMs }

/-- The tags of the members of a pool, sorted, without repetition. -/
def RuntimePool.memberTags (pool : RuntimePool) : List String :=
  Sorted.sortDedup (fun tag => tag) (pool.members.map fun id => nodeTag id.val)

/-- The loop over the pools. -/
def emitPools : List RuntimePool → Except CompileError (List CoreOutbound)
  | [] => .ok []
  | pool :: rest => do
    reject pool.members.isEmpty .emptyPoolMembership
    let outbounds ← emitPools rest
    .ok (poolOutbound pool pool.memberTags :: outbounds)

/-- The outbound of a route. -/
def routeTag : RouteTarget → Except CompileError String
  | .pool id => .ok (poolTag id.val)
  | .direct => .ok "direct"
  | .block => .ok "block"
  | .unconfigured => .error .invalidRouteTarget

/-- The rule for a matcher that leads to an outbound. -/
def matcherRule (outbound : String) : TrafficMatcher → CoreRule
  | .domain values => { outbound := some outbound, domain := some values }
  | .domainSuffix values => { outbound := some outbound, domainSuffix := some values }
  | .application values => { outbound := some outbound, processName := some values }
  | .ipCidr values => { outbound := some outbound, ipCidr := some values }
  | .port values => { outbound := some outbound, port := some values }
  | .protocol values => { outbound := some outbound, network := some values }

/-- `route_rule`. -/
def routeRule (route : RoutePolicy) : Except CompileError CoreRule := do
  let outbound ← routeTag route.target
  .ok (matcherRule outbound route.matcher)

/-- The loop over the routes. -/
def emitRoutes : List RoutePolicy → Except CompileError (List CoreRule)
  | [] => .ok []
  | route :: rest => do
    let rule ← routeRule route
    let rules ← emitRoutes rest
    .ok (rule :: rules)

/-- The rule that fences the endpoints off, if there are any. -/
def fence (ingress : List String) : List CoreRule :=
  if ingress.isEmpty then [] else [CoreRule.reject ingress]

/-- The document of what was emitted. -/
def assemble (finalOutbound : String) (nodes groups : List CoreOutbound)
    (endpoints : List WireGuardEndpoint) (rules : List CoreRule) : Document :=
  { logDisabled := true
    dns := { servers := [⟨"local", dnsTag⟩], finalServer := dnsTag
             rules := fence (endpoints.map (·.tag)) }
    inbounds := []
    outbounds := nodes ++ groups ++ [.direct "direct", .block "block"]
    endpoints
    route := { rules := fence (endpoints.map (·.tag)) ++ rules, finalOutbound
               defaultDomainResolver := dnsTag }
    clashApi := { externalController := apiAddress, secret := "" } }

/-- `SingBoxPlan`. -/
structure SingBoxPlan where
  document : Document
deriving DecidableEq, Repr

/-- `SingBoxCompiler::compile`. -/
def compile (env : CompilerEnv) (intent : RuntimeIntent) (defaultTarget : RouteTarget) :
    Except CompileError SingBoxPlan := do
  let finalOutbound ← finalTag intent.pools defaultTarget
  let (nodes, endpoints) ← emitNodes (Sorted.sortBy (·.id.val) intent.nodes)
  let groups ← emitPools (Sorted.sortBy (·.id.val) intent.pools)
  let rules ← emitRoutes (Sorted.sortBy RoutePolicy.key (intent.routes.filter (·.enabled)))
  let document := assemble finalOutbound nodes groups endpoints rules
  document.validate env false
  .ok { document }

/-! ## The final bytes -/

/-- `serde_json`: documents as bytes, and bytes and documents as values. -/
structure DocumentText (Bytes Value : Type) where
  toVec : Document → Option Bytes
  fromSlice : Bytes → Option Document
  toValue : Document → Option Value
  valueOf : Bytes → Option Value

/-- `GeneratedConfig::validate_final`. -/
def validateFinal {Bytes Value : Type} [DecidableEq Value] (env : CompilerEnv)
    (text : DocumentText Bytes Value) (bytes : Bytes) : Except CompileError Unit := do
  let document ← okOr (text.fromSlice bytes) .invalidFinalConfiguration
  document.validate env true
  let received ← okOr (text.valueOf bytes) .invalidFinalConfiguration
  let canonical ← okOr (text.toValue document) .serializationFailed
  reject (received ≠ canonical) .invalidFinalConfiguration

/-- `SingBoxPlan::finalize`: the bytes of a `GeneratedConfig`. -/
def SingBoxPlan.finalize {Bytes Value : Type} [DecidableEq Value] (env : CompilerEnv)
    (text : DocumentText Bytes Value) (plan : SingBoxPlan) (secret : String) :
    Except CompileError Bytes := do
  let document : Document :=
    { plan.document with clashApi := { plan.document.clashApi with secret } }
  document.validate env true
  let bytes ← okOr (text.toVec document) .serializationFailed
  validateFinal env text bytes
  .ok bytes

end Veyra
