import Veyra.Application.SubscriptionManagement

/-!
# Veyra.Application.ProxyRouting

`ProxyRoutingManager::mutate`: pools, routes and the default target change
under a process-local revision.  `applyMutation` edits the state,
`mutateOn` decides what is saved over a loaded state, and `RevisionState`
follows the material that the revision counts.

The parser of probe URLs (`reqwest::Url::parse`) is a parameter.
-/

namespace Veyra.ProxyRouting

open Check

def maxPools : Nat := 100
def maxRoutes : Nat := 500
def maxSources : Nat := 100
def maxFilterTexts : Nat := 64
def maxFilterNodeIds : Nat := 5000
def maxMatcherValues : Nat := 500

/-! ## Requests -/

structure NodeFilterDto where
  regions : List String
  protocols : List ProxyProtocol
  includeKeywords : List String
  excludeKeywords : List String
  includeNodeIds : List String
  excludeNodeIds : List String

structure PoolSourceDto where
  providerId : String
  filter : NodeFilterDto

inductive SelectionDto
  | manual (selectedNodeId : Option String)
  | urlTest (probeUrl : String) (intervalSeconds : UInt64) (toleranceMs : UInt32)

inductive MatcherDto
  | domain (values : List String)
  | domainSuffix (values : List String)
  | application (values : List String)
  | ipCidr (values : List String)
  | port (values : List UInt16)
  | protocol (values : List NetworkProtocol)

inductive DefaultTargetDto
  | followActiveSubscription
  | pool (poolId : String)
  | direct
  | block

inductive RouteTargetDto
  | pool (poolId : String)
  | direct
  | block

/-- `ProxyRoutingMutation`. -/
inductive Mutation
  | createCustomPool (name : String) (enabled : Bool) (sources : List PoolSourceDto)
      (selection : SelectionDto)
  | updateCustomPool (id name : String) (enabled : Bool) (sources : List PoolSourceDto)
      (selection : SelectionDto)
  | deleteCustomPool (id : String)
  | setManualSelection (poolId nodeId : String)
  | setDefaultTarget (target : DefaultTargetDto)
  | createRoute (name : String) (enabled : Bool) (matcher : MatcherDto) (target : RouteTargetDto)
      (insertAt : Nat)
  | updateRoute (id name : String) (enabled : Bool) (matcher : MatcherDto)
      (target : RouteTargetDto)
  | deleteRoute (id : String)
  | reorderRoutes (routeIds : List String)
  | applyConfiguration

/-- `MutateProxyRoutingRequest`. -/
structure MutateRequest where
  expectedRevision : UInt64
  mutation : Mutation

inductive MutationError
  | invalidInput
  | busy
  | conflict
  | notFound
  | referenceConflict
  | validationFailed
  | saveFailed
  | stateUnavailable
  | runtimeUnavailable
  | configurationFailed
  | stateChanged
  | stopFailed
  | startFailed
  | recoveryRequired
deriving DecidableEq, Repr

/-- `MutationOutcome`, as far as `apply_mutation` reports it: a manual selection is saved
before the runtime is asked. -/
inductive MutationOutcome
  | saved
  | selectorSavedOnly (poolId nodeId : String)
deriving DecidableEq, Repr

/-- `map_state_validation`. -/
def mapStateValidation : StateValidationError → MutationError
  | .missingSubscription | .missingProvider | .missingPool | .emptyPoolSources | .invalidFilter
  | .invalidSelection | .emptyPoolMembership | .inactivePoolTarget => .referenceConflict
  | .invalidIdentifier | .duplicateIdentifier | .invalidRoute | .invalidProtocolOptions
  | .invalidSubscription | .unsupportedSchemaVersion => .validationFailed

/-! ## Checks of the requests -/

/-- The parts of a parsed URL that `valid_probe_url` looks at. -/
structure ProbeUrl where
  scheme : String
  username : String
  password : Option String
  query : Option String
  fragment : Option String
  host : Option String

/-- The parameters of a mutation: the URL parser, and the random bytes of `getrandom`,
if there were any. -/
structure Env where
  parseUrl : String → Option ProbeUrl
  random : Option (List UInt8)

def validateName (value : String) : Except MutationError Unit :=
  let value := Text.trim value
  reject (value = "" || value.toList.length > 80 || value.toList.any Text.isControl) .invalidInput

def validateReference (value : String) : Except MutationError Unit :=
  reject (value = "" || Text.trim value ≠ value || value.toList.any Text.isControl) .invalidInput

/-- A text that is blank, too long or has a control character. -/
def badText (value : String) : Bool :=
  let value := Text.trim value
  value = "" || value.toList.length > 255 || value.toList.any Text.isControl

def validateTexts (values : List String) (max : Nat) : Except MutationError Unit :=
  reject (values.length > max || values.any badText || !decide (values.map Text.trim).Nodup)
    .invalidInput

def validateReferences (values : List String) (max : Nat) : Except MutationError Unit := do
  reject (values.length > max || !decide values.Nodup) .invalidInput
  each validateReference values

def validateFilter (filter : NodeFilterDto) : Except MutationError Unit := do
  validateTexts filter.regions maxFilterTexts
  validateTexts filter.includeKeywords maxFilterTexts
  validateTexts filter.excludeKeywords maxFilterTexts
  validateReferences filter.includeNodeIds maxFilterNodeIds
  validateReferences filter.excludeNodeIds maxFilterNodeIds
  reject (filter.protocols.length > 15 || !decide filter.protocols.Nodup ||
    filter.includeNodeIds.any (filter.excludeNodeIds.contains ·)) .invalidInput

def validateSources (values : List PoolSourceDto) : Except MutationError Unit := do
  reject (values.isEmpty || values.length > maxSources ||
    !decide (values.map (·.providerId)).Nodup) .invalidInput
  each (fun value => do
    validateReference value.providerId
    validateFilter value.filter) values

def validProbeUrl (env : Env) (value : String) : Bool :=
  (env.parseUrl value).any fun url =>
    url.scheme = "https" ||
      (url.scheme = "http" && url.username = "" && url.password.isNone && url.query.isNone &&
        url.fragment.isNone && (url.host = some "127.0.0.1" || url.host = some "::1"))

def validateSelection (env : Env) : SelectionDto → Except MutationError Unit
  | .manual none => .ok ()
  | .manual (some id) => validateReference id
  | .urlTest probeUrl intervalSeconds toleranceMs =>
    reject (!(1 ≤ intervalSeconds && intervalSeconds ≤ 86400) || toleranceMs > 60000 ||
      Text.len probeUrl > 2048 || !validProbeUrl env probeUrl) .invalidInput

def validateDefaultTarget : DefaultTargetDto → Except MutationError Unit
  | .pool poolId => validateReference poolId
  | _ => .ok ()

def validateRouteTarget : RouteTargetDto → Except MutationError Unit
  | .pool poolId => validateReference poolId
  | _ => .ok ()

def validateMatcher : MatcherDto → Except MutationError Unit
  | .domain values | .domainSuffix values | .application values | .ipCidr values => do
    reject (values.isEmpty || values.length > maxMatcherValues) .invalidInput
    validateTexts values maxMatcherValues
  | .port values => reject (values.isEmpty || values.length > maxMatcherValues ||
      values.contains 0 || !decide values.Nodup) .invalidInput
  | .protocol values => reject (values.isEmpty || values.length > maxMatcherValues ||
      !decide values.Nodup) .invalidInput

/-! ## From requests to the domain -/

def trimValues (values : List String) : List String := values.map Text.trim

def NodeFilterDto.toFilter (filter : NodeFilterDto) : NodeFilter :=
  { regions := trimValues filter.regions
    protocols := filter.protocols
    includeKeywords := trimValues filter.includeKeywords
    excludeKeywords := trimValues filter.excludeKeywords
    includeNodeIds := filter.includeNodeIds.map NodeId.mk
    excludeNodeIds := filter.excludeNodeIds.map NodeId.mk }

def PoolSourceDto.toSource (source : PoolSourceDto) : PoolSource :=
  { providerId := ⟨source.providerId⟩, filter := source.filter.toFilter }

def SelectionDto.toPolicy : SelectionDto → SelectionPolicy
  | .manual selectedNodeId => .manual (selectedNodeId.map NodeId.mk)
  | .urlTest probeUrl intervalSeconds toleranceMs => .urlTest probeUrl intervalSeconds toleranceMs

def MatcherDto.toMatcher : MatcherDto → TrafficMatcher
  | .domain values => .domain (trimValues values)
  | .domainSuffix values => .domainSuffix (trimValues values)
  | .application values => .application (trimValues values)
  | .ipCidr values => .ipCidr (trimValues values)
  | .port values => .port values
  | .protocol values => .protocol values

def DefaultTargetDto.toTarget : DefaultTargetDto → RouteTarget
  | .followActiveSubscription => .unconfigured
  | .pool poolId => .pool ⟨poolId⟩
  | .direct => .direct
  | .block => .block

def RouteTargetDto.toTarget : RouteTargetDto → RouteTarget
  | .pool poolId => .pool ⟨poolId⟩
  | .direct => .direct
  | .block => .block

/-! ## Mutations -/

/-- `new_id`. -/
def newId (env : Env) (kind : String) : Except MutationError String :=
  (okOr env.random .stateUnavailable).map (identityOf kind)

/-- `normalize_priorities` from a position on. -/
def normalizeFrom (index : Nat) : List RoutePolicy → Except MutationError (List RoutePolicy)
  | [] => .ok []
  | route :: routes => do
    reject (index > 2147483647) .validationFailed
    let routes ← normalizeFrom (index + 1) routes
    .ok ({ route with priority := Int32.ofNat index } :: routes)

/-- `normalize_priorities`: the priority of a route is its position. -/
def normalizePriorities (routes : List RoutePolicy) : Except MutationError (List RoutePolicy) :=
  normalizeFrom 0 routes

/-- The state with other routes, in the priorities of their order. -/
def withRoutes (s : AppState) (routes : List RoutePolicy) : Except MutationError AppState := do
  let routes ← normalizePriorities routes
  .ok { s with routes }

/-- Remove the route with an id, which is returned with the rest. -/
def takeRoute (id : String) : List RoutePolicy → Option (RoutePolicy × List RoutePolicy)
  | [] => none
  | route :: routes =>
    if route.id.val = id then some (route, routes)
    else (takeRoute id routes).map fun (found, rest) => (found, route :: rest)

/-- The routes in the order of the ids: the loop of `ReorderRoutes`. -/
def orderRoutes : List String → List RoutePolicy → Option (List RoutePolicy)
  | [], _ => some []
  | id :: ids, routes => do
    let (route, rest) ← takeRoute id routes
    let ordered ← orderRoutes ids rest
    some (route :: ordered)

/-- The pool with an id, which must be a custom one. -/
def customPool (s : AppState) (id : String) : Except MutationError NodePool := do
  let pool ← okOr (s.pools.find? (·.id.val = id)) .notFound
  reject (pool.kind ≠ .custom) .referenceConflict
  .ok pool

/-- The selection after `SetManualSelection`. -/
def selectManually (nodeId : String) : SelectionPolicy → Except MutationError SelectionPolicy
  | .manual _ => .ok (.manual (some ⟨nodeId⟩))
  | .urlTest .. => .error .referenceConflict

/-- Change the pool with an id. -/
def modifyPool (s : AppState) (id : String) (f : NodePool → NodePool) : AppState :=
  { s with pools := modifyFirst (fun pool => decide (pool.id.val = id)) f s.pools }

/-- `apply_mutation`; `ApplyConfiguration` never gets here. -/
def applyMutation (env : Env) (s : AppState) :
    Mutation → Except MutationError (AppState × MutationOutcome)
  | .createCustomPool name enabled sources selection => do
    reject (s.pools.length ≥ maxPools) .validationFailed
    validateName name
    validateSources sources
    validateSelection env selection
    let id ← newId env "pool"
    reject (s.pools.any (·.id.val = id)) .stateUnavailable
    let pool : NodePool :=
      { id := ⟨id⟩, name := Text.trim name, kind := .custom
        sources := sources.map (·.toSource), selection := selection.toPolicy, enabled }
    .ok ({ s with pools := s.pools ++ [pool] }, .saved)
  | .updateCustomPool id name enabled sources selection => do
    validateReference id
    validateName name
    validateSources sources
    validateSelection env selection
    let _ ← customPool s id
    .ok (modifyPool s id fun pool =>
      { pool with name := Text.trim name, enabled, sources := sources.map (·.toSource)
                  selection := selection.toPolicy }, .saved)
  | .deleteCustomPool id => do
    validateReference id
    let _ ← customPool s id
    reject (s.defaultTarget = .pool ⟨id⟩ || s.routes.any (·.target = .pool ⟨id⟩))
      .referenceConflict
    .ok ({ s with pools := s.pools.eraseP (·.id.val = id) }, .saved)
  | .setManualSelection poolId nodeId => do
    validateReference poolId
    validateReference nodeId
    let pool ← okOr (s.pools.find? (·.id.val = poolId)) .notFound
    let selection ← selectManually nodeId pool.selection
    .ok (modifyPool s poolId fun pool => { pool with selection }, .selectorSavedOnly poolId nodeId)
  | .setDefaultTarget target => do
    validateDefaultTarget target
    .ok ({ s with defaultTarget := target.toTarget }, .saved)
  | .createRoute name enabled matcher target insertAt => do
    reject (s.routes.length ≥ maxRoutes || insertAt > s.routes.length) .validationFailed
    validateName name
    validateMatcher matcher
    validateRouteTarget target
    let id ← newId env "route"
    reject (s.routes.any (·.id.val = id)) .stateUnavailable
    let route : RoutePolicy :=
      { id := ⟨id⟩, name := Text.trim name, enabled, priority := 0
        matcher := matcher.toMatcher, target := target.toTarget }
    let s ← withRoutes s (s.routes.insertIdx insertAt route)
    .ok (s, .saved)
  | .updateRoute id name enabled matcher target => do
    validateReference id
    validateName name
    validateMatcher matcher
    validateRouteTarget target
    let _ ← okOr (s.routes.find? (·.id.val = id)) .notFound
    .ok ({ s with
      routes := modifyFirst (fun route => decide (route.id.val = id)) (fun route =>
        { route with name := Text.trim name, enabled, matcher := matcher.toMatcher
                     target := target.toTarget }) s.routes }, .saved)
  | .deleteRoute id => do
    validateReference id
    let (_, rest) ← okOr (takeRoute id s.routes) .notFound
    let s ← withRoutes s rest
    .ok (s, .saved)
  | .reorderRoutes routeIds => do
    reject (routeIds.length ≠ s.routes.length || !decide routeIds.Nodup ||
      !routeIds.all fun id => s.routes.any (·.id.val = id)) .validationFailed
    let ordered ← okOr (orderRoutes routeIds s.routes) .validationFailed
    let s ← withRoutes s ordered
    .ok (s, .saved)
  | .applyConfiguration => .error .validationFailed

/-! ## Revisions -/

/-- `CasMaterial`: what a revision is a revision of. -/
structure CasMaterial where
  activeSubscriptionId : Option String
  desiredGeneration : UInt64
  providers : List (String × String × String)
  nodes : List (String × String × String × ProxyProtocol)
  pools : List NodePool
  defaultTarget : RouteTarget
  routes : List RoutePolicy
deriving DecidableEq

/-- `CasMaterial::from`. -/
def CasMaterial.of (s : AppState) : CasMaterial :=
  { activeSubscriptionId := s.activeSubscriptionId.map (·.val)
    desiredGeneration := s.activeConfigurationGeneration
    providers := s.providers.map fun p => (p.id.val, p.subscriptionId.val, p.name)
    nodes := s.nodes.map fun n => (n.id.val, n.providerId.val, n.name, n.protocol)
    pools := s.pools
    defaultTarget := s.defaultTarget
    routes := s.routes }

structure RevisionState where
  revision : UInt64
  material : Option CasMaterial
deriving DecidableEq

/-- `RevisionState::observe`; an exhausted revision makes the state unavailable. -/
def RevisionState.observe (r : RevisionState) (material : CasMaterial) :
    Except MutationError RevisionState :=
  if r.material = some material then .ok r
  else if r.revision.toNat + 1 ≤ maxSafeInteger.toNat then
    .ok { revision := r.revision + 1, material := some material }
  else .error .stateUnavailable

/-! ## The decision of a mutation -/

/-- A selection by hand. -/
def Mutation.isManual : Mutation → Bool
  | .setManualSelection .. => true
  | _ => false

/-- What `mutate` does once it has looked at the loaded state: it hands over to an
activation, has nothing to save, or saves. -/
inductive Decision
  | apply (activeId : SubscriptionId) (desiredGeneration : UInt64)
  | unchanged (outcome : MutationOutcome)
  | save (next : AppState) (outcome : MutationOutcome)
deriving DecidableEq

/-- The next generation of `mutate`; a selection by hand keeps it. -/
def mutatedGeneration (manual : Bool) (current : UInt64) : Except MutationError UInt64 :=
  if manual then .ok current
  else if current.toNat + 1 ≤ maxSafeInteger.toNat then .ok (current + 1)
  else .error .stateUnavailable

/-- The part of `mutate` for a mutation that edits the state. -/
def mutateState (env : Env) (observed : RevisionState) (mutation : Mutation) (s : AppState) :
    Except MutationError Decision := do
  let (edited, outcome) ← applyMutation env s mutation
  if some (CasMaterial.of edited) = observed.material then .ok (.unchanged outcome)
  else do
    let generation ← mutatedGeneration mutation.isManual edited.activeConfigurationGeneration
    reject (observed.revision = maxSafeInteger) .stateUnavailable
    let next := { edited with activeConfigurationGeneration := generation }
    next.validate.mapError mapStateValidation
    .ok (.save next outcome)

/-- `mutate` on a loaded state, whose material was just observed. -/
def mutateOn (env : Env) (observed : RevisionState) (request : MutateRequest) (s : AppState) :
    Except MutationError Decision := do
  reject (observed.revision ≠ request.expectedRevision) .conflict
  match request.mutation with
  | .applyConfiguration =>
    (okOr s.activeSubscriptionId .validationFailed).map (.apply · s.activeConfigurationGeneration)
  | mutation => mutateState env observed mutation s

/-- `mutate` under the gate: observe the loaded state, then decide. -/
def mutate (env : Env) (revisions : RevisionState) (request : MutateRequest) (s : AppState) :
    Except MutationError (RevisionState × Decision) := do
  let observed ← revisions.observe (CasMaterial.of s)
  let decision ← mutateOn env observed request s
  .ok (observed, decision)

/-- A committed mutation: the state it saves over the one it loaded. -/
inductive MutationCommit (env : Env) (request : MutateRequest) (s t : AppState) : Prop
  | mk {revisions observed : RevisionState} {outcome : MutationOutcome}
      (committed : mutate env revisions request s = .ok (observed, .save t outcome))

/-! ## What a mutation does -/

/-- The accepted mutations: the checks that each of them passed, and the state that it leaves. -/
inductive Mutated (env : Env) (s : AppState) : Mutation → AppState → MutationOutcome → Prop
  | createCustomPool {name : String} {enabled : Bool} {sources : List PoolSourceDto}
      {selection : SelectionDto} {id : String} (room : s.pools.length < maxPools)
      (named : validateName name = .ok ()) (sourced : validateSources sources = .ok ())
      (selects : validateSelection env selection = .ok ()) (drawn : newId env "pool" = .ok id)
      (fresh : ∀ pool ∈ s.pools, pool.id.val ≠ id) :
      Mutated env s (.createCustomPool name enabled sources selection)
        { s with pools := s.pools ++
          [{ id := ⟨id⟩, name := Text.trim name, kind := .custom
             sources := sources.map (·.toSource), selection := selection.toPolicy, enabled }] }
        .saved
  | updateCustomPool {id name : String} {enabled : Bool} {sources : List PoolSourceDto}
      {selection : SelectionDto} {pool : NodePool} (named : validateName name = .ok ())
      (sourced : validateSources sources = .ok ())
      (selects : validateSelection env selection = .ok ()) (found : customPool s id = .ok pool) :
      Mutated env s (.updateCustomPool id name enabled sources selection)
        (modifyPool s id fun pool =>
          { pool with name := Text.trim name, enabled, sources := sources.map (·.toSource)
                      selection := selection.toPolicy })
        .saved
  | deleteCustomPool {id : String} {pool : NodePool} (found : customPool s id = .ok pool)
      (unused : (s.defaultTarget = .pool ⟨id⟩ || s.routes.any (·.target = .pool ⟨id⟩)) = false) :
      Mutated env s (.deleteCustomPool id)
        { s with pools := s.pools.eraseP (·.id.val = id) } .saved
  | setManualSelection {poolId nodeId : String} {pool : NodePool} {selection : SelectionPolicy}
      (named : validateReference poolId = .ok ()) (chosen : validateReference nodeId = .ok ())
      (found : s.pools.find? (·.id.val = poolId) = some pool)
      (selected : selectManually nodeId pool.selection = .ok selection) :
      Mutated env s (.setManualSelection poolId nodeId)
        (modifyPool s poolId fun pool => { pool with selection }) (.selectorSavedOnly poolId nodeId)
  | setDefaultTarget {target : DefaultTargetDto} (aimed : validateDefaultTarget target = .ok ()) :
      Mutated env s (.setDefaultTarget target) { s with defaultTarget := target.toTarget } .saved
  | createRoute {name : String} {enabled : Bool} {matcher : MatcherDto} {target : RouteTargetDto}
      {insertAt : Nat} {id : String} {t : AppState} (room : s.routes.length < maxRoutes)
      (inside : insertAt ≤ s.routes.length) (named : validateName name = .ok ())
      (matched : validateMatcher matcher = .ok ()) (aimed : validateRouteTarget target = .ok ())
      (drawn : newId env "route" = .ok id) (fresh : ∀ route ∈ s.routes, route.id.val ≠ id)
      (renumbered : withRoutes s (s.routes.insertIdx insertAt
        { id := ⟨id⟩, name := Text.trim name, enabled, priority := 0
          matcher := matcher.toMatcher, target := target.toTarget }) = .ok t) :
      Mutated env s (.createRoute name enabled matcher target insertAt) t .saved
  | updateRoute {id name : String} {enabled : Bool} {matcher : MatcherDto}
      {target : RouteTargetDto} {route : RoutePolicy} (named : validateName name = .ok ())
      (matched : validateMatcher matcher = .ok ()) (aimed : validateRouteTarget target = .ok ())
      (found : s.routes.find? (·.id.val = id) = some route) :
      Mutated env s (.updateRoute id name enabled matcher target)
        { s with
          routes := modifyFirst (fun route => decide (route.id.val = id)) (fun route =>
            { route with name := Text.trim name, enabled, matcher := matcher.toMatcher
                         target := target.toTarget }) s.routes }
        .saved
  | deleteRoute {id : String} {route : RoutePolicy} {rest : List RoutePolicy} {t : AppState}
      (taken : takeRoute id s.routes = some (route, rest))
      (renumbered : withRoutes s rest = .ok t) :
      Mutated env s (.deleteRoute id) t .saved
  | reorderRoutes {routeIds : List String} {ordered : List RoutePolicy} {t : AppState}
      (known : (routeIds.length ≠ s.routes.length || !decide routeIds.Nodup ||
        !routeIds.all fun id => s.routes.any (·.id.val = id)) = false)
      (arranged : orderRoutes routeIds s.routes = some ordered)
      (renumbered : withRoutes s ordered = .ok t) :
      Mutated env s (.reorderRoutes routeIds) t .saved

/-- **Inversion.**  A mutation that is applied is one of the accepted ones. -/
theorem applyMutation_cases {env : Env} {s t : AppState} {mutation : Mutation}
    {outcome : MutationOutcome} (h : applyMutation env s mutation = .ok (t, outcome)) :
    Mutated env s mutation t outcome := by
  cases mutation with
  | createCustomPool name enabled sources selection =>
    obtain ⟨hroom, h⟩ := ok_seq.mp h
    obtain ⟨hname, h⟩ := ok_seq.mp h
    obtain ⟨hsources, h⟩ := ok_seq.mp h
    obtain ⟨hselection, h⟩ := ok_seq.mp h
    obtain ⟨id, hid, h⟩ := ok_bind.mp h
    obtain ⟨hfresh, h⟩ := ok_seq.mp h
    cases h
    exact .createCustomPool (by simpa using hroom) hname hsources hselection hid
      (by simpa using hfresh)
  | updateCustomPool id name enabled sources selection =>
    obtain ⟨-, h⟩ := ok_seq.mp h
    obtain ⟨hname, h⟩ := ok_seq.mp h
    obtain ⟨hsources, h⟩ := ok_seq.mp h
    obtain ⟨hselection, h⟩ := ok_seq.mp h
    obtain ⟨pool, hpool, h⟩ := ok_bind.mp h
    cases h
    exact .updateCustomPool hname hsources hselection hpool
  | deleteCustomPool id =>
    obtain ⟨-, h⟩ := ok_seq.mp h
    obtain ⟨pool, hpool, h⟩ := ok_bind.mp h
    obtain ⟨hunused, h⟩ := ok_seq.mp h
    cases h
    exact .deleteCustomPool hpool (reject_eq_ok.mp hunused)
  | setManualSelection poolId nodeId =>
    obtain ⟨hpoolId, h⟩ := ok_seq.mp h
    obtain ⟨hnodeId, h⟩ := ok_seq.mp h
    obtain ⟨pool, hpool, h⟩ := ok_bind.mp h
    obtain ⟨selection, hselection, h⟩ := ok_bind.mp h
    cases h
    exact .setManualSelection hpoolId hnodeId (okOr_eq_ok.mp hpool) hselection
  | setDefaultTarget target =>
    obtain ⟨htarget, h⟩ := ok_seq.mp h
    cases h
    exact .setDefaultTarget htarget
  | createRoute name enabled matcher target insertAt =>
    obtain ⟨hbounds, h⟩ := ok_seq.mp h
    obtain ⟨hname, h⟩ := ok_seq.mp h
    obtain ⟨hmatcher, h⟩ := ok_seq.mp h
    obtain ⟨htarget, h⟩ := ok_seq.mp h
    obtain ⟨id, hid, h⟩ := ok_bind.mp h
    obtain ⟨hfresh, h⟩ := ok_seq.mp h
    obtain ⟨edited, hedited, h⟩ := ok_bind.mp h
    cases h
    obtain ⟨hroom, hinside⟩ := Bool.or_eq_false_iff.mp (reject_eq_ok.mp hbounds)
    exact .createRoute (by simpa using hroom) (by simpa using hinside) hname hmatcher htarget hid
      (by simpa using hfresh) hedited
  | updateRoute id name enabled matcher target =>
    obtain ⟨-, h⟩ := ok_seq.mp h
    obtain ⟨hname, h⟩ := ok_seq.mp h
    obtain ⟨hmatcher, h⟩ := ok_seq.mp h
    obtain ⟨htarget, h⟩ := ok_seq.mp h
    obtain ⟨route, hroute, h⟩ := ok_bind.mp h
    cases h
    exact .updateRoute hname hmatcher htarget (okOr_eq_ok.mp hroute)
  | deleteRoute id =>
    obtain ⟨-, h⟩ := ok_seq.mp h
    obtain ⟨⟨route, rest⟩, htake, h⟩ := ok_bind.mp h
    obtain ⟨edited, hedited, h⟩ := ok_bind.mp h
    cases h
    exact .deleteRoute (okOr_eq_ok.mp htake) hedited
  | reorderRoutes routeIds =>
    obtain ⟨hknown, h⟩ := ok_seq.mp h
    obtain ⟨ordered, hordered, h⟩ := ok_bind.mp h
    obtain ⟨edited, hedited, h⟩ := ok_bind.mp h
    cases h
    exact .reorderRoutes (reject_eq_ok.mp hknown) (okOr_eq_ok.mp hordered) hedited
  | applyConfiguration => cases h

/-! ## What a mutation keeps -/

/-- Everything but pools, routes and the default target. -/
structure KeepsContent (s t : AppState) : Prop where
  subscriptions : t.subscriptions = s.subscriptions
  providers : t.providers = s.providers
  nodes : t.nodes = s.nodes
  active : t.activeSubscriptionId = s.activeSubscriptionId
  generation : t.activeConfigurationGeneration = s.activeConfigurationGeneration

/-- A mutation edits pools, routes and the default target alone. -/
def EditsRouting (s t : AppState) : Prop :=
  t = { s with pools := t.pools, routes := t.routes, defaultTarget := t.defaultTarget }

theorem EditsRouting.keepsContent {s t : AppState} (h : EditsRouting s t) : KeepsContent s t := by
  rw [h]
  exact ⟨rfl, rfl, rfl, rfl, rfl⟩

theorem withRoutes_ok {s t : AppState} {routes : List RoutePolicy}
    (h : withRoutes s routes = .ok t) : EditsRouting s t := by
  obtain ⟨normalized, -, h⟩ := ok_bind.mp h
  cases h
  rfl

/-- **Spec.**  That is all an accepted mutation edits. -/
theorem applyMutation_edits {env : Env} {s t : AppState} {mutation : Mutation}
    {outcome : MutationOutcome} (h : applyMutation env s mutation = .ok (t, outcome)) :
    EditsRouting s t := by
  cases applyMutation_cases h with
  | createRoute _ _ _ _ _ _ _ renumbered => exact withRoutes_ok renumbered
  | deleteRoute _ renumbered => exact withRoutes_ok renumbered
  | reorderRoutes _ _ renumbered => exact withRoutes_ok renumbered
  | _ => rfl

theorem applyMutation_ok {env : Env} {s t : AppState} {mutation : Mutation}
    {outcome : MutationOutcome} (h : applyMutation env s mutation = .ok (t, outcome)) :
    KeepsContent s t :=
  (applyMutation_edits h).keepsContent

/-- A saved state is the one the mutation made of the loaded state, under its generation. -/
theorem MutationCommit.applied {env : Env} {request : MutateRequest} {s t : AppState}
    (h : MutationCommit env request s t) :
    ∃ edited outcome, applyMutation env s request.mutation = .ok (edited, outcome) ∧
      t = { edited with activeConfigurationGeneration := t.activeConfigurationGeneration } := by
  obtain ⟨committed⟩ := h
  obtain ⟨seen, -, h⟩ := ok_bind.mp committed
  obtain ⟨decision, hdecision, h⟩ := ok_bind.mp h
  cases h
  obtain ⟨-, hdecision⟩ := ok_seq.mp hdecision
  split at hdecision
  · obtain ⟨id, -, hid⟩ := map_eq_ok.mp hdecision
    cases hid
  · obtain ⟨⟨edited, reported⟩, hedited, h⟩ := ok_bind.mp hdecision
    simp only at h
    split at h
    · cases h
    · obtain ⟨generation, -, h⟩ := ok_bind.mp h
      obtain ⟨-, h⟩ := ok_seq.mp h
      obtain ⟨-, h⟩ := ok_seq.mp h
      cases h
      exact ⟨edited, _, hedited, rfl⟩

/-- **Spec.**  A saved mutation was asked for at the revision of the loaded state; it is
valid, keeps what mutations keep, and raises the generation unless it selects by hand. -/
theorem mutate_save {env : Env} {revisions observed : RevisionState} {request : MutateRequest}
    {s t : AppState} {outcome : MutationOutcome}
    (h : mutate env revisions request s = .ok (observed, .save t outcome)) :
    observed.revision = request.expectedRevision ∧ t.Valid ∧
    t.activeSubscriptionId = s.activeSubscriptionId ∧
    s.activeConfigurationGeneration ≤ t.activeConfigurationGeneration ∧
    (request.mutation.isManual = false →
      s.activeConfigurationGeneration < t.activeConfigurationGeneration) := by
  obtain ⟨seen, hseen, h⟩ := ok_bind.mp h
  obtain ⟨decision, hdecision, h⟩ := ok_bind.mp h
  cases h
  obtain ⟨hrevision, hdecision⟩ := ok_seq.mp hdecision
  have hstate : mutateState env observed request.mutation s = .ok (.save t outcome) := by
    split at hdecision
    · obtain ⟨id, -, hid⟩ := map_eq_ok.mp hdecision
      cases hid
    · exact hdecision
  obtain ⟨⟨edited, reported⟩, hedited, h⟩ := ok_bind.mp hstate
  have hkeeps := applyMutation_ok hedited
  simp only at h
  split at h
  · cases h
  · obtain ⟨generation, hgeneration, h⟩ := ok_bind.mp h
    obtain ⟨-, h⟩ := ok_seq.mp h
    obtain ⟨hvalid, h⟩ := ok_seq.mp h
    cases h
    have hvalid := AppState.validate_eq_ok.mp (mapError_eq_ok.mp hvalid)
    have hraised : edited.activeConfigurationGeneration ≤ generation ∧
        (request.mutation.isManual = false →
          edited.activeConfigurationGeneration < generation) := by
      rw [mutatedGeneration] at hgeneration
      split at hgeneration
      · next hmanual =>
        cases hgeneration
        simp [hmanual]
      · split at hgeneration
        · next hbound =>
          cases hgeneration
          have hmax : maxSafeInteger.toNat = 9007199254740991 := rfl
          have hone : (1 : UInt64).toNat = 1 := rfl
          have hlt : edited.activeConfigurationGeneration <
              edited.activeConfigurationGeneration + 1 := by
            rw [UInt64.lt_iff_toNat_lt, UInt64.toNat_add]
            omega
          exact ⟨UInt64.le_of_lt hlt, fun _ => hlt⟩
        · cases hgeneration
    rw [hkeeps.generation] at hraised
    exact ⟨by simpa using hrevision, hvalid, hkeeps.active, hraised⟩

end Veyra.ProxyRouting
