import Veyra.Domain.Validation
import Veyra.Lib.Json

/-!
# Veyra.Storage.Migration

The version chain over untyped documents (`migration.rs`).  Each step rewrites
one version into the next; an error of any step is reported as
`migrationFailed`, and the half-rewritten document is dropped with it.
-/

namespace Veyra

open Check Json

inductive StateStoreError
  | invalidState (error : StateValidationError)
  | invalidStatePath
  | readFailed
  | writeFailed
  | replaceFailed
  | invalidJson
  | missingSchemaVersion
  | migrationFailed
  | invalidStoredState
  | unsupportedSchemaVersion
  | noValidBackup
  | serializationFailed
deriving DecidableEq, Repr

/-- The members of an object under migration. -/
abbrev Members := List (String × Json)

def num (n : UInt64) : Json := .num (.posInt n)

/-- `as_object_mut`, then the given change. -/
def onObject (f : Members → Except StateStoreError Members) : Json → Except StateStoreError Json
  | .obj ms => (f ms).map .obj
  | _ => .error .invalidStoredState

/-- Change each element of a list, stopping at the first failure. -/
def changeAll (f : Json → Except StateStoreError Json) :
    List Json → Except StateStoreError (List Json)
  | [] => .ok []
  | v :: vs => do
    let v ← f v
    let vs ← changeAll f vs
    .ok (v :: vs)

/-- Change each element of the array stored under `key`, in place. -/
def onEach (key : String) (f : Json → Except StateStoreError Json) (ms : Members) :
    Except StateStoreError Members :=
  match ms.lookup key with
  | some (.arr vs) => (changeAll f vs).map fun vs => setMember key (.arr vs) ms
  | _ => .error .invalidStoredState

/-! ## Inversion of the steps -/

theorem onObject_eq_ok {f : Members → Except StateStoreError Members} {v v' : Json} :
    onObject f v = .ok v' ↔ ∃ ms ms', v = .obj ms ∧ f ms = .ok ms' ∧ v' = .obj ms' := by
  cases v with
  | obj ms =>
    rw [onObject, map_eq_ok]
    constructor
    · rintro ⟨ms', hf, rfl⟩
      exact ⟨ms, ms', rfl, hf, rfl⟩
    · rintro ⟨_, ms', h, hf, rfl⟩
      obtain rfl := Json.obj.inj h
      exact ⟨ms', hf, rfl⟩
  | _ => simp [onObject]

theorem changeAll_eq_ok {f : Json → Except StateStoreError Json} {vs vs' : List Json} :
    changeAll f vs = .ok vs' ↔ List.Forall₂ (fun v v' => f v = .ok v') vs vs' := by
  induction vs generalizing vs' with
  | nil =>
    rw [changeAll, List.forall₂_nil_left_iff, Except.ok.injEq]
    exact eq_comm
  | cons v vs ih =>
    rw [changeAll, List.forall₂_cons_left_iff, ok_bind]
    constructor
    · rintro ⟨v', hv, h⟩
      obtain ⟨ws, hvs, h⟩ := ok_bind.mp h
      exact ⟨v', ws, hv, ih.mp hvs, (Except.ok.inj h).symm⟩
    · rintro ⟨v', ws, hv, hvs, rfl⟩
      exact ⟨v', hv, ok_bind.mpr ⟨ws, ih.mpr hvs, rfl⟩⟩

theorem onEach_eq_ok {key : String} {f : Json → Except StateStoreError Json} {ms ms' : Members} :
    onEach key f ms = .ok ms' ↔ ∃ vs vs', ms.lookup key = some (.arr vs) ∧
      List.Forall₂ (fun v v' => f v = .ok v') vs vs' ∧ ms' = setMember key (.arr vs') ms := by
  unfold onEach
  split
  · next vs h =>
    simp only [map_eq_ok, changeAll_eq_ok]
    constructor
    · rintro ⟨vs', hvs, rfl⟩
      exact ⟨vs, vs', h, hvs, rfl⟩
    · rintro ⟨_, vs', heq, hvs, rfl⟩
      obtain rfl := Json.arr.inj (Option.some.inj (h.symm.trans heq))
      exact ⟨vs', hvs, rfl⟩
  · next h =>
    constructor
    · intro hfailed
      cases hfailed
    · rintro ⟨vs, _, hvs, _⟩
      exact absurd hvs (h vs)

/-! ## Version 1 to 2 -/

def migrateV1ToV2 : Json → Except StateStoreError Json :=
  onObject fun ms =>
    .ok (setMember "routes" (.arr []) (setMember "pools" (.arr [])
      (setMember "schema_version" (num 2) ms)))

/-! ## Version 2 to 3 -/

/-- `optional_string`: absent, null, or a string that is not blank. -/
def optionalString (ms : Members) (key : String) : Except StateStoreError (Option String) :=
  match ms.lookup key with
  | none | some .null => .ok none
  | some (.str s) => if Text.blank s then .error .invalidStoredState else .ok (some s)
  | some _ => .error .invalidStoredState

def requiredString (ms : Members) (key : String) : Except StateStoreError String := do
  okOr (← optionalString ms key) .invalidStoredState

def v3Protocol : String → Except StateStoreError String
  | "shadowsocks" => .ok "shadowsocks"
  | "vmess" => .ok "vmess"
  | "vless" => .ok "vless"
  | "trojan" => .ok "trojan"
  | "hysteria2" => .ok "hysteria2"
  | "tuic" => .ok "tuic"
  | "http" => .ok "http"
  | "any_tls" => .ok "any_tls"
  | "socks5" => .ok "socks"
  | "https" => .ok "http"
  | _ => .error .invalidStoredState

/-- The JSON of an optional string. -/
def textOrNull : Option String → Json
  | none => .null
  | some s => .str s

/-- The credentials as `v3_options` reads them. -/
structure V2Credentials where
  kind : String
  username : Option String
  password : Option String
  cipher : Option String
  uuid : Option String
  flow : Option String
deriving DecidableEq, Repr

def readCredentials (credentials : Json) : Except StateStoreError V2Credentials := do
  let ms ← okOr credentials.asObj? .invalidStoredState
  let kind ← requiredString ms "kind"
  let username ← optionalString ms "username"
  let password ← optionalString ms "password"
  let cipher ← optionalString ms "cipher"
  let uuid ← optionalString ms "uuid"
  let flow ← optionalString ms "flow"
  .ok { kind, username, password, cipher, uuid, flow }

/-- The match of `v3_options`. -/
def optionsOfCredentials (protocol : String) (c : V2Credentials) : Except StateStoreError Json :=
  match protocol, c.kind with
  | "shadowsocks", "password" => do
    let cipher ← okOr c.cipher .invalidStoredState
    let password ← okOr c.password .invalidStoredState
    .ok (object [("kind", .str "shadowsocks"), ("method", .str cipher),
      ("password", .str password)])
  | "vmess", "uuid" => do
    let uuid ← okOr c.uuid .invalidStoredState
    .ok (object [("kind", .str "vmess"), ("uuid", .str uuid), ("alter_id", .null),
      ("security", .null)])
  | "vless", "uuid" => do
    let uuid ← okOr c.uuid .invalidStoredState
    .ok (object [("kind", .str "vless"), ("uuid", .str uuid), ("flow", textOrNull c.flow)])
  | "trojan", "password" | "any_tls", "password" => do
    let password ← okOr c.password .invalidStoredState
    .ok (object [("kind", .str protocol), ("password", .str password)])
  | "hysteria2", "password" => do
    let password ← okOr c.password .invalidStoredState
    .ok (object [("kind", .str "hysteria2"), ("password", .str password), ("obfs", .null)])
  | "socks5", "none" | "socks5", "password" =>
    .ok (object [("kind", .str "socks"), ("version", num 5), ("username", textOrNull c.username),
      ("password", textOrNull c.password)])
  | "http", "none" | "http", "password" | "https", "none" | "https", "password" =>
    .ok (object [("kind", .str "http"), ("username", textOrNull c.username),
      ("password", textOrNull c.password), ("tls", .bool (protocol == "https"))])
  | _, _ => .error .invalidStoredState

def v3Options (protocol : String) (credentials : Json) : Except StateStoreError Json := do
  optionsOfCredentials protocol (← readCredentials credentials)

def migrateV2Node : Json → Except StateStoreError Json :=
  onObject fun ms => do
    let protocol ← requiredString ms "protocol"
    let credentials ← okOr (ms.lookup "credentials") .invalidStoredState
    let ms := removeMember "credentials" ms
    let options ← v3Options protocol credentials
    let renamed ← v3Protocol protocol
    .ok (setMember "options" options (setMember "protocol" (.str renamed) ms))

def migrateV2ToV3 : Json → Except StateStoreError Json :=
  onObject fun ms => do
    let ms ← onEach "nodes" migrateV2Node ms
    .ok (setMember "default_target" (object [("kind", .str "unconfigured")])
      (setMember "schema_version" (num 3) ms))

/-! ## Version 3 to 4 -/

def migrateV3Subscription : Json → Except StateStoreError Json :=
  onObject fun ms =>
    .ok (setMember "http_metadata" .null (setMember "last_success_at_ms" .null
      (setMember "source" (object [("kind", .str "manual")]) ms)))

def migrateV3ToV4 : Json → Except StateStoreError Json :=
  onObject fun ms => do
    let ms ← onEach "subscriptions" migrateV3Subscription ms
    .ok (setMember "schema_version" (num 4) ms)

/-! ## Version 4 to 5 -/

/-- The request options and the update policy given to a source kind. -/
def v5Policies : String → Except StateStoreError (Json × Json)
  | "remote" => .ok
    (object [("user_agent", .null), ("timeout_seconds", num 30), ("proxy_mode", .str "direct"),
      ("verify_tls", .bool true)],
     object [("allow_auto_update", .bool true), ("interval_minutes", .null)])
  | "manual" => .ok
    (.null, object [("allow_auto_update", .bool false), ("interval_minutes", .null)])
  | _ => .error .invalidStoredState

def migrateV4Subscription : Json → Except StateStoreError Json :=
  onObject fun ms => do
    let sourceKind ← okOr
      ((((ms.lookup "source").bind asObj?).bind (·.lookup "kind")).bind asStr?)
      .invalidStoredState
    let (remoteRequest, updatePolicy) ← v5Policies sourceKind
    .ok (setMember "update_policy" updatePolicy (setMember "remote_request" remoteRequest
      (setMember "last_attempt_at_ms" .null (setMember "description" (.str "") ms))))

def migrateV4ToV5 : Json → Except StateStoreError Json :=
  onObject fun ms => do
    let ms ← onEach "subscriptions" migrateV4Subscription ms
    .ok (setMember "schema_version" (num 5) (setMember "active_configuration_generation" (num 0)
      (setMember "active_subscription_id" .null ms)))

/-! ## Version 5 to 6 -/

def migrateV5Subscription : Json → Except StateStoreError Json :=
  onObject fun ms => .ok (setMember "document" .null ms)

def migrateV5ToV6 : Json → Except StateStoreError Json :=
  onObject fun ms => do
    let ms ← onEach "subscriptions" migrateV5Subscription ms
    .ok (setMember "schema_version" (num 6) ms)

/-! ## The chain -/

/-- Step `k` of the loop migrates version `k + 1`. -/
def migrations : List (Json → Except StateStoreError Json) :=
  [migrateV1ToV2, migrateV2ToV3, migrateV3ToV4, migrateV4ToV5, migrateV5ToV6]

/-- Run the steps in order; any failure is a failed migration. -/
def runMigrations : List (Json → Except StateStoreError Json) → Json →
    Except StateStoreError Json
  | [], document => .ok document
  | step :: steps, document => do
    let document ← (step document).mapError fun _ => .migrationFailed
    runMigrations steps document

/-- The `schema_version` of a document, if it is an unsigned integer. -/
def schemaVersion? (document : Json) : Option UInt64 :=
  (document.get? "schema_version").bind asU64?

/-- `migrate_to_current`: the document in the current version and whether a step ran. -/
def migrateToCurrent (document : Json) : Except StateStoreError (Json × Bool) := do
  let version ← okOr (schemaVersion? document) .missingSchemaVersion
  if 1 ≤ version ∧ version < currentSchemaVersion.toUInt64 then
    let document ← runMigrations (migrations.drop (version.toNat - 1)) document
    .ok (document, true)
  else if version = currentSchemaVersion.toUInt64 then .ok (document, false)
  else .error .unsupportedSchemaVersion

/-- Every step of the chain reports its failure as a failed migration. -/
theorem runMigrations_error {steps : List (Json → Except StateStoreError Json)} {document : Json}
    {e : StateStoreError} (h : runMigrations steps document = .error e) : e = .migrationFailed := by
  induction steps generalizing document with
  | nil => exact absurd h nofun
  | cons step steps ih =>
    rw [runMigrations] at h
    cases hs : step document with
    | error e' =>
      rw [hs] at h
      exact (Except.error.inj h).symm
    | ok document' =>
      rw [hs] at h
      exact ih h

theorem runMigrations_append (l₁ l₂ : List (Json → Except StateStoreError Json)) (document : Json) :
    runMigrations (l₁ ++ l₂) document = runMigrations l₁ document >>= runMigrations l₂ := by
  induction l₁ generalizing document with
  | nil => rfl
  | cons step l₁ ih =>
    rw [List.cons_append, runMigrations, runMigrations]
    cases hs : step document with
    | error e => rfl
    | ok document' => exact ih document'

/-- Documents of an old version go through the rest of the chain. -/
theorem migrateToCurrent_of_old {document : Json} {version : UInt64}
    (h : schemaVersion? document = some version) (hlo : 1 ≤ version)
    (hhi : version < currentSchemaVersion.toUInt64) :
    migrateToCurrent document =
      (runMigrations (migrations.drop (version.toNat - 1)) document).map (·, true) := by
  rw [migrateToCurrent, h]
  show (if 1 ≤ version ∧ version < currentSchemaVersion.toUInt64 then _ else _) = _
  rw [if_pos ⟨hlo, hhi⟩]
  cases runMigrations (migrations.drop (version.toNat - 1)) document <;> rfl

end Veyra
