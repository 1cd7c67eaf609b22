import Veyra.Subscription.ValidDrafts

/-!
# Veyra.Subscription.Aliases

The spellings of one parameter, and what the parser does when two of them are there.  Most
aliases are compared, or may not occur together; for the others the first spelling wins and
the rest is dropped without a word.
-/

namespace Veyra

open Check

/-! ## The aliases of an entry -/

/-- The spellings of one parameter, as paths in an entry, and the value that a spelling
gives where there are several notations for it. -/
structure AliasGroup where
  spellings : List (List String)
  value : Json → Json

namespace AliasGroup

/-- Top-level fields that are compared as they stand. -/
def fields (keys : List String) : AliasGroup := { spellings := keys.map ([·]), value := id }

def paths (spellings : List (List String)) : AliasGroup := { spellings, value := id }

/-- All spellings that are there give equal values. -/
def agrees (group : AliasGroup) (entry : Json) : Bool :=
  let values := group.spellings.filterMap fun path => (entry.at? path).map group.value
  values.all fun v => values.all fun w => v.eqv w

end AliasGroup

/-- A port is a number or its decimal digits. -/
def portValue (v : Json) : Json :=
  match v.asU16?.or (v.asStr?.bind Text.parseU16) with
  | some port => .num (.posInt port.toUInt64)
  | none => v

/-- An array of one host is the host. -/
def hostValue : Json → Json
  | .arr [.str host] => .str host
  | v => v

/-- A string is the list of one string. -/
def listValue : Json → Json
  | .str s => .arr [.str s]
  | v => v

/-- A limit of zero is none. -/
def maxEarlyDataValue (v : Json) : Json := if v.asU32? = some 0 then .null else v

/-- An empty name is none. -/
def headerNameValue (v : Json) : Json := if v.asStr? = some "" then .null else v

/-- The fields that may be written with dashes. -/
def dashedFields : List String :=
  ["private_key", "peer_public_key", "pre_shared_key", "auth_str", "congestion_control",
    "udp_relay_mode", "zero_rtt", "private_key_passphrase", "host_key"]

/-- The aliases whose spellings are compared, or may not occur together. -/
def comparedAliases : List AliasGroup :=
  [ .paths [["sni"], ["servername"], ["tls", "server_name"]],
    .paths [["skip-cert-verify"], ["insecure"], ["tls", "insecure"]],
    .paths [["alpn"], ["tls", "alpn"]],
    .paths [["client-fingerprint"], ["tls", "utls", "fingerprint"]],
    .paths [["reality-opts", "public-key"], ["tls", "reality", "public_key"]],
    .paths [["reality-opts", "short-id"], ["tls", "reality", "short_id"]],
    ⟨[["ws-opts", "max_early_data"], ["ws-opts", "max-early-data"],
      ["transport", "max_early_data"]], maxEarlyDataValue⟩,
    ⟨[["ws-opts", "early_data_header_name"], ["ws-opts", "early-data-header-name"],
      ["transport", "early_data_header_name"]], headerNameValue⟩,
    .fields ["alter_id", "alterId"],
    .fields ["security", "cipher"],
    .fields ["password", "auth"],
    .fields ["up_mbps", "up-mbps", "up", "up-speed"],
    .fields ["down_mbps", "down-mbps", "down", "down-speed"],
    .fields ["disable_path_mtu_discovery", "disable_mtu_discovery"] ] ++
  dashedFields.map fun key => .fields [key, dashed key]

/-- The aliases of which the first readable spelling wins. -/
def firstWinsAliases : List AliasGroup :=
  [ .fields ["name", "tag", "ps"],
    .fields ["server", "add"],
    ⟨[["port"], ["server_port"]], portValue⟩,
    .fields ["uuid", "id"],
    .fields ["cipher", "method"],
    .paths [["network"], ["net"], ["transport", "type"]],
    .paths [["ws-opts", "path"], ["transport", "path"], ["path"]],
    ⟨[["ws-opts", "headers", "Host"], ["transport", "headers", "Host"], ["host"]], hostValue⟩,
    .paths [["grpc-opts", "grpc-service-name"], ["transport", "service_name"]],
    ⟨[["local_address"], ["local-address"], ["local_addresses"], ["local-addresses"]], listValue⟩,
    .fields ["auth", "auth_str", "auth-str"],
    .fields ["user", "username"],
    .fields ["psk", "password"] ]

/-- No two spellings of one parameter contradict each other. -/
def aliasesAgree (entry : Json) : Bool :=
  (comparedAliases ++ firstWinsAliases).all (·.agrees entry)

def firstWinsAgree (entry : Json) : Bool := firstWinsAliases.all (·.agrees entry)

/-! ## The aliases of a link -/

/-- The parameters of a link that have several spellings: those of the query and the user
information `@`, or those of a legacy payload and the fragment `#`. -/
def linkParameters (readers : DocumentReaders) (link : String) : List (String × String) :=
  match Text.splitOnce "://" link with
  | none => []
  | some (scheme, remainder) =>
    let beforeFragment := ((Text.splitOnce "#" remainder).getD (remainder, "")).1
    let fragment := ((Text.splitOnce "#" remainder).getD (remainder, "")).2
    if eqIgnoreAsciiCase scheme "vmess" then
      let payload := ((decodeBase64 beforeFragment).toOption.bind readers.json).bind Json.asObj?
      (if fragment = "" then [] else [("#", percentDecode fragment)]) ++
        (payload.getD []).filterMap fun m => m.2.asStr?.map (m.1, ·)
    else
      let split := (Text.splitOnce "?" beforeFragment).getD (beforeFragment, "")
      let credentials := percentDecode ((Text.rsplitOnce '@' split.1).getD ("", split.1)).1
      (if credentials = "" then [] else [("@", credentials)]) ++
        (parseQuery split.2).toOption.getD []

/-- All spellings that are there are equal. -/
def linkAgrees (parameters : List (String × String)) (spellings : List String) : Bool :=
  let values := spellings.filterMap (parameters.lookup ·)
  values.all fun v => values.all fun w => v == w

def comparedLinkAliases : List (List String) := [["up_mbps", "upmbps"], ["down_mbps", "downmbps"]]

def firstWinsLinkAliases : List (List String) :=
  [["peer_public_key", "publickey"], ["pre_shared_key", "presharedkey"],
    ["local_address", "address"], ["@", "auth", "auth_str"], ["scy", "security"], ["#", "ps"]]

def linkAliasesAgree (readers : DocumentReaders) (link : String) : Bool :=
  (comparedLinkAliases ++ firstWinsLinkAliases).all (linkAgrees (linkParameters readers link))

def linkFirstWinsAgree (readers : DocumentReaders) (link : String) : Bool :=
  firstWinsLinkAliases.all (linkAgrees (linkParameters readers link))

/-! ## Alias moves -/

/-- The value under an alias or its canonical field is found under the canonical field. -/
def Absorbed (before after : List (String × Json)) (spelling canonical : String) : Prop :=
  after.lookup spelling = none ∧ ∀ v, before.lookup spelling = some v ∨
    before.lookup canonical = some v → after.lookup canonical = some v

/-- An alias is absorbed, or both fields stay as they are. -/
def Merged (before after : List (String × Json)) (spelling canonical : String) : Prop :=
  Absorbed before after spelling canonical ∨
    after.lookup spelling = before.lookup spelling ∧
      after.lookup canonical = before.lookup canonical

theorem isScalar_of_nonempty {v : Json} (h : validNonemptyString v = true) :
    v.isScalar = true := by
  cases v <;> simp [validNonemptyString, Json.asStr?, Json.isScalar] at h ⊢

theorem isScalar_of_string {v : Json} (h : validString v = true) : v.isScalar = true := by
  cases v <;> simp [validString, Json.asStr?, Json.isScalar] at h ⊢

theorem isScalar_of_bool {v : Json} (h : validBool v = true) : v.isScalar = true := by
  cases v <;> simp [validBool, Json.isBool, Json.asBool?, Json.isScalar] at h ⊢

theorem isScalar_of_u32 {v : Json} (h : validU32 v = true) : v.isScalar = true := by
  obtain ⟨n, hn⟩ := Option.isSome_iff_exists.mp h
  rw [Json.eq_of_asU32? hn]
  rfl

/-- **Spec.**  `move_alias`. -/
theorem moveAlias_ok {members after : List (String × Json)} {spelling canonical : String}
    {valid : Json → Bool} (h : moveAlias members spelling canonical valid = some after)
    (hne : canonical ≠ spelling) (hscalar : ∀ v, valid v = true → v.isScalar = true) :
    Absorbed members after spelling canonical ∧
      ∀ k, k ≠ spelling → k ≠ canonical → after.lookup k = members.lookup k := by
  unfold moveAlias at h
  cases hspelling : members.lookup spelling with
  | none =>
    simp only [hspelling, Option.some.injEq] at h
    subst h
    refine ⟨⟨hspelling, fun v hv => ?_⟩, fun _ _ _ => rfl⟩
    obtain hv | hv := hv
    · rw [hspelling] at hv
      cases hv
    · exact hv
  | some value =>
    simp only [hspelling] at h
    split at h
    · cases h
    · next hok =>
      cases h
      simp only [Bool.or_eq_true, Bool.not_eq_true', not_or, Bool.not_eq_false] at hok
      obtain ⟨hvalid, hagrees⟩ := hok
      refine ⟨⟨by simp [Ne.symm hne], fun v hv => ?_⟩, fun k hk hk' => by simp [hk, hk']⟩
      rw [Json.lookup_setMember, if_pos rfl]
      obtain hv | hv := hv
      · rw [hspelling] at hv
        exact hv
      · rw [Json.lookup_removeMember, if_neg hne, hv] at hagrees
        simp only [Option.any_some, Bool.not_eq_true', Bool.not_eq_false] at hagrees
        exact congrArg some (Json.eq_of_eqv hagrees (hscalar value hvalid)).symm

/-- The same for an alias of one protocol only. -/
theorem moveAlias_if {members after : List (String × Json)} {spelling canonical : String}
    {valid : Json → Bool} {applies : Bool}
    (h : (if applies then moveAlias members spelling canonical valid else some members) =
      some after)
    (hne : canonical ≠ spelling) (hscalar : ∀ v, valid v = true → v.isScalar = true) :
    Merged members after spelling canonical ∧
      ∀ k, k ≠ spelling → k ≠ canonical → after.lookup k = members.lookup k := by
  split at h
  · obtain ⟨habsorbed, hkeeps⟩ := moveAlias_ok h hne hscalar
    exact ⟨.inl habsorbed, hkeeps⟩
  · cases h
    exact ⟨.inr ⟨rfl, rfl⟩, fun _ _ _ => rfl⟩

/-- What `normalize_websocket_aliases` does to the options of the transport. -/
def WebsocketMerged (before after : List (String × Json)) : Prop :=
  (∀ options, before.lookup "ws-opts" = some (.obj options) →
    ∃ merged, after.lookup "ws-opts" = some (.obj merged) ∧
      Absorbed options merged "max-early-data" "max_early_data" ∧
      Absorbed options merged "early-data-header-name" "early_data_header_name") ∧
  ∀ k, k ≠ "ws-opts" → after.lookup k = before.lookup k

/-- What the merge of the websocket options leaves. -/
theorem normalizeWebsocketAliases_ok {members after : List (String × Json)}
    (h : normalizeWebsocketAliases members = some after) : WebsocketMerged members after := by
  unfold normalizeWebsocketAliases at h
  split at h
  · next options hoptions =>
    obtain ⟨first, hfirst, h⟩ := Option.bind_eq_some_iff.mp h
    obtain ⟨merged, hmerged, h⟩ := Option.bind_eq_some_iff.mp h
    cases h
    obtain ⟨hmax, hkeepsMax⟩ := moveAlias_ok hfirst (by decide) fun _ => isScalar_of_u32
    obtain ⟨hname, hkeepsName⟩ := moveAlias_ok hmerged (by decide) fun _ => isScalar_of_string
    refine ⟨fun found hfound => ⟨merged, by simp, ?_, ?_⟩, fun k hk => by simp [hk]⟩
    · rw [hoptions] at hfound
      cases hfound
      obtain ⟨hnone, hall⟩ := hmax
      constructor
      · rw [hkeepsName _ (by decide) (by decide), hnone]
      · intro v hv
        rw [hkeepsName _ (by decide) (by decide)]
        exact hall v hv
    · rw [hoptions] at hfound
      cases hfound
      obtain ⟨hnone, hall⟩ := hname
      refine ⟨hnone, fun v hv => hall v ?_⟩
      rw [hkeepsMax _ (by decide) (by decide), hkeepsMax _ (by decide) (by decide)]
      exact hv
  · next hother =>
    cases h
    exact ⟨fun options hoptions => absurd hoptions (hother options), fun _ _ => rfl⟩

/-- The top-level moves, alias before canonical field. -/
def aliasMoves : List (String × String) :=
  [("servername", "sni"), ("alterId", "alter_id"), ("cipher", "security"), ("auth", "password"),
    ("insecure", "skip-cert-verify")]

/-- The fields that a move may change. -/
def movedFields : List String :=
  ["servername", "sni", "alterId", "alter_id", "cipher", "security", "auth", "password",
    "insecure", "skip-cert-verify", "ws-opts"]

/-- **Spec.**  The alias moves of an entry. -/
structure Normalized (members entry : List (String × Json)) : Prop where
  kept : ∀ k, k ∉ movedFields → entry.lookup k = members.lookup k
  merged : ∀ move ∈ aliasMoves, Merged members entry move.1 move.2
  websocket : ∀ options, members.lookup "ws-opts" = some (.obj options) →
    ∃ merged, entry.lookup "ws-opts" = some (.obj merged) ∧
      Absorbed options merged "max-early-data" "max_early_data" ∧
      Absorbed options merged "early-data-header-name" "early_data_header_name"

/-- A step that is taken under a condition only. -/
theorem some_of_if {α β : Type} {applies : Bool} {step skip : Option α} {next : α → Option β}
    {b : β} (h : (if applies then step >>= next else skip >>= next) = some b) :
    ∃ a, (if applies then step else skip) = some a ∧ next a = some b := by
  cases applies with
  | true => exact Option.bind_eq_some_iff.mp h
  | false => exact Option.bind_eq_some_iff.mp h

/-- What an entry looks like once its aliases were moved. -/
theorem normalizeAliases_ok {members entry : List (String × Json)}
    (h : normalizeAliases members = some entry) : Normalized members entry := by
  obtain ⟨m₁, h₁, h⟩ := Option.bind_eq_some_iff.mp h
  dsimp only at h
  obtain ⟨m₂, h₂, h⟩ := some_of_if h
  obtain ⟨m₃, h₃, h⟩ := some_of_if h
  obtain ⟨m₄, h₄, h⟩ := some_of_if h
  obtain ⟨m₅, h₅, h⟩ := some_of_if h
  obtain ⟨hsni, k₁⟩ := moveAlias_ok h₁ (by decide) fun _ => isScalar_of_nonempty
  obtain ⟨halter, k₂⟩ := moveAlias_if h₂ (by decide) fun _ => isScalar_of_u32
  obtain ⟨hcipher, k₃⟩ := moveAlias_if h₃ (by decide) fun _ => isScalar_of_nonempty
  obtain ⟨hauth, k₄⟩ := moveAlias_if h₄ (by decide) fun _ => isScalar_of_nonempty
  obtain ⟨hinsecure, k₅⟩ := moveAlias_if h₅ (by decide) fun _ => isScalar_of_bool
  obtain ⟨hwebsocket, k₆⟩ := normalizeWebsocketAliases_ok h
  constructor
  · intro k hk
    simp only [movedFields, List.mem_cons, List.not_mem_nil, or_false, not_or] at hk
    rw [k₆ k (by tauto), k₅ k (by tauto) (by tauto), k₄ k (by tauto) (by tauto),
      k₃ k (by tauto) (by tauto), k₂ k (by tauto) (by tauto), k₁ k (by tauto) (by tauto)]
  · intro move hmove
    simp only [aliasMoves, List.mem_cons, List.not_mem_nil, or_false] at hmove
    obtain rfl | rfl | rfl | rfl | rfl := hmove
    · left
      simpa (disch := decide) only [Absorbed, k₂, k₃, k₄, k₅, k₆] using hsni
    · simpa (disch := decide) only [Merged, Absorbed, k₁, k₃, k₄, k₅, k₆] using halter
    · simpa (disch := decide) only [Merged, Absorbed, k₁, k₂, k₄, k₅, k₆] using hcipher
    · simpa (disch := decide) only [Merged, Absorbed, k₁, k₂, k₃, k₅, k₆] using hauth
    · simpa (disch := decide) only [Merged, Absorbed, k₁, k₂, k₃, k₄, k₆] using hinsecure
  · intro options hoptions
    refine hwebsocket options ?_
    simpa (disch := decide) only [k₁, k₂, k₃, k₄, k₅] using hoptions

/-! ## Accepted entries -/

/-- A field that the protocol may have. -/
def legalField (protocol : ProxyProtocol) (key : String) : Bool :=
  commonJsonFields.contains key || (protocolJsonFields protocol).contains key

/-- What acceptance says about an entry, after the alias moves. -/
structure EntryRead (members entry : List (String × Json)) (protocol : ProxyProtocol) : Prop where
  normalized : Normalized members entry
  legal : ∀ key v, entry.lookup key = some v → legalField protocol key = true
  options : ∃ o, optionsFromFields (.ofValue (.obj entry)) protocol = .ok o
  transport : ∃ t, transportFromFields (.ofValue (.obj entry)) = .ok t
  tls : ∃ t, tlsFromFields (.ofValue (.obj entry)) protocol = .ok t

/-- A member that is found is one of the members. -/
theorem mem_of_lookup {members : List (String × Json)} {key : String} {v : Json}
    (h : members.lookup key = some v) : (key, v) ∈ members := by
  induction members with
  | nil => cases h
  | cons m ms ih =>
    rw [Json.lookup_cons] at h
    split at h
    · next hkey =>
      cases h
      rw [hkey]
      exact List.mem_cons_self
    · exact List.mem_cons_of_mem m (ih h)

/-- A draft comes from the entry of its candidate. -/
theorem parseCandidate_read {context : JsonCandidateContext} {candidate : Json}
    {draft : ProxyNodeDraft} (h : parseCandidate context candidate = some (.ok draft)) :
    ∃ members entry protocol, candidate = .obj members ∧ EntryRead members entry protocol := by
  unfold parseCandidate at h
  split at h
  · cases h
  · have h := Option.some.inj h
    cases hobject : candidate.asObj? with
    | none =>
      simp only [hobject] at h
      obtain ⟨hknown, -⟩ := ok_seq.mp h
      have hunknown : hasUnknownJsonFields candidate = true := by
        rw [hasUnknownJsonFields, hobject]
        rfl
      rw [hunknown] at hknown
      cases hknown
    | some members =>
      simp only [hobject] at h
      obtain ⟨entry, hentry, h⟩ := ok_bind.mp h
      obtain ⟨-, h⟩ := ok_seq.mp h
      obtain ⟨hlegal, h⟩ := ok_seq.mp h
      obtain ⟨protocol, hprotocol, h⟩ := ok_bind.mp h
      obtain ⟨name, -, h⟩ := ok_bind.mp h
      obtain ⟨server, -, h⟩ := ok_bind.mp h
      obtain ⟨port, -, h⟩ := ok_bind.mp h
      obtain ⟨-, h⟩ := ok_seq.mp h
      obtain ⟨smux, -, h⟩ := ok_bind.mp h
      obtain ⟨options, hoptions, h⟩ := ok_bind.mp h
      obtain ⟨-, h⟩ := ok_seq.mp h
      obtain ⟨transport, htransport, h⟩ := ok_bind.mp h
      obtain ⟨tls, htls, -⟩ := ok_bind.mp h
      refine ⟨members, entry, protocol, Json.asObj?_eq_some.mp hobject,
        normalizeAliases_ok (okOr_eq_ok.mp hentry), fun key v hv => ?_, ⟨_, hoptions⟩,
        ⟨_, htransport⟩, ⟨_, htls⟩⟩
      have hillegal := reject_eq_ok.mp hlegal
      rw [hasIllegalProtocolFields, okOr_eq_ok.mp hprotocol] at hillegal
      have hkey : ¬ (!commonJsonFields.contains key &&
          !(protocolJsonFields protocol).contains key) = true :=
        List.any_eq_false.mp hillegal _ (mem_of_lookup hv)
      rw [← Bool.not_or, Bool.not_eq_true', Bool.not_eq_false] at hkey
      exact hkey

/-! ## Compared fields -/

namespace AliasGroup

/-- Spellings agree if any two of them do. -/
theorem agrees_of_eq {group : AliasGroup} {entry : Json}
    (h : ∀ path ∈ group.spellings, ∀ path' ∈ group.spellings, ∀ v w, entry.at? path = some v →
      entry.at? path' = some w → group.value v = group.value w) : group.agrees entry = true := by
  rw [agrees, List.all_eq_true]
  intro v hv
  rw [List.all_eq_true]
  intro w hw
  obtain ⟨path, hpath, hv⟩ := List.mem_filterMap.mp hv
  obtain ⟨found, hfound, rfl⟩ := Option.map_eq_some_iff.mp hv
  obtain ⟨path', hpath', hw⟩ := List.mem_filterMap.mp hw
  obtain ⟨found', hfound', rfl⟩ := Option.map_eq_some_iff.mp hw
  rw [h path hpath path' hpath' found found' hfound hfound']
  exact Json.eqv_refl _

/-- Spellings that all give one value agree. -/
theorem agrees_of_value {group : AliasGroup} {entry : Json} (value : Json)
    (h : ∀ path ∈ group.spellings, ∀ v, entry.at? path = some v → group.value v = value) :
    group.agrees entry = true :=
  agrees_of_eq fun path hpath path' hpath' v w hv hw =>
    (h path hpath v hv).trans (h path' hpath' w hw).symm

/-- A group agrees if any two of its members that are there do. -/
theorem agrees_of_fields {members : List (String × Json)} {keys : List String}
    (h : ∀ key ∈ keys, ∀ key' ∈ keys, ∀ v w, members.lookup key = some v →
      members.lookup key' = some w → v = w) :
    (AliasGroup.fields keys).agrees (.obj members) = true := by
  have hat (key : String) : (Json.obj members).at? [key] = members.lookup key := by
    simp only [Json.at?, Json.get?_obj]
    cases members.lookup key <;> rfl
  apply agrees_of_eq
  intro path hpath path' hpath' v w hv hw
  obtain ⟨key, hkey, rfl⟩ := List.mem_map.mp hpath
  obtain ⟨key', hkey', rfl⟩ := List.mem_map.mp hpath'
  rw [hat] at hv hw
  exact h key hkey key' hkey' v w hv hw

/-- Two fields that never occur together, or only with one value, agree. -/
theorem agrees_of_pair {members : List (String × Json)} {first second : String}
    (h : ∀ v w, members.lookup first = some v → members.lookup second = some w → v = w) :
    (AliasGroup.fields [first, second]).agrees (.obj members) = true := by
  apply agrees_of_fields
  intro key hkey key' hkey' v w hv hw
  simp only [List.mem_cons, List.not_mem_nil, or_false] at hkey hkey'
  obtain rfl | rfl := hkey
  · obtain rfl | rfl := hkey'
    · exact Option.some.inj (hv.symm.trans hw)
    · exact h v w hv hw
  · obtain rfl | rfl := hkey'
    · exact (h w v hw hv).symm
    · exact Option.some.inj (hv.symm.trans hw)

end AliasGroup

/-- Values that a reader of both spellings accepts are read the same. -/
theorem resolveBoth_ok {α : Type} [DecidableEq α] {parse : Json → Parsed α}
    {first second : Option Json} {o : Option α} (h : resolveBoth parse first second = .ok o)
    {v : Json} (hv : first = some v ∨ second = some v) : ∃ a, o = some a ∧ parse v = .ok a := by
  cases first with
  | none =>
    cases second with
    | none => simp at hv
    | some w =>
      obtain ⟨a, ha, ho⟩ := map_eq_ok.mp h
      simp only [reduceCtorEq, Option.some.injEq, false_or] at hv
      exact ⟨a, ho.symm, hv ▸ ha⟩
  | some u =>
    cases second with
    | none =>
      obtain ⟨a, ha, ho⟩ := map_eq_ok.mp h
      simp only [reduceCtorEq, Option.some.injEq, or_false] at hv
      exact ⟨a, ho.symm, hv ▸ ha⟩
    | some w =>
      obtain ⟨a, ha, h⟩ := ok_bind.mp h
      obtain ⟨b, hb, h⟩ := ok_bind.mp h
      split at h
      · next hsame =>
        cases h
        obtain hv | hv := hv
        · cases hv
          exact ⟨a, rfl, ha⟩
        · cases hv
          exact ⟨a, rfl, hsame ▸ hb⟩
      · cases h

/-- Values that a reader of several spellings accepts are read the same. -/
theorem resolveSpellings_ok {α : Type} [DecidableEq α] {parse : Json → Parsed (Option α)}
    {resolved : Option (Option α)} {vs : List Json} {o : Option α}
    (h : resolveSpellings parse resolved vs = .ok o) :
    (∀ x, resolved = some x → x = o) ∧ ∀ v ∈ vs, parse v = .ok o := by
  induction vs generalizing resolved with
  | nil =>
    cases h
    refine ⟨fun x hx => ?_, by simp⟩
    rw [hx]
    rfl
  | cons v vs ih =>
    obtain ⟨value, hvalue, h⟩ := ok_bind.mp h
    obtain ⟨hsame, h⟩ := ok_seq.mp h
    obtain ⟨hresolved, hrest⟩ := ih h
    have ho : value = o := hresolved value rfl
    refine ⟨fun x hx => ?_, fun w hw => ?_⟩
    · rw [hx] at hsame
      have hxv : x = value := by simpa using hsame
      rw [hxv, ho]
    · obtain rfl | hw := List.mem_cons.mp hw
      · rw [hvalue, ho]
      · exact hrest w hw

/-- `raw_value` does not take a field under both of its spellings. -/
theorem rawValue_ok {fields : JsonFields} {key : String} {o : Option Json}
    (h : rawValue fields key = .ok o) (hdashed : dashed key ≠ key) :
    fields.raw.lookup key = none ∨ fields.raw.lookup (dashed key) = none := by
  unfold rawValue at h
  split at h
  · rw [if_pos (by simpa using hdashed)] at h
    cases h
  · next hnone => exact .inr hnone
  · next hnone _ => exact .inl hnone
  · next hnone _ => exact .inl hnone

/-! ## The compared aliases of an accepted entry -/

theorem at_field (members : List (String × Json)) (key : String) :
    (Json.obj members).at? [key] = members.lookup key := by
  simp only [Json.at?, Json.get?_obj]
  cases members.lookup key <;> rfl

theorem at_nested (members : List (String × Json)) (outer key : String) :
    (Json.obj members).at? [outer, key] = (members.lookup outer).bind (·.get? key) := by
  simp only [Json.at?, Json.get?_obj]
  cases members.lookup outer with
  | none => rfl
  | some v => cases hv : v.get? key <;> simp [hv]

namespace EntryRead

variable {members entry : List (String × Json)} {protocol : ProxyProtocol}

/-- A field that is not moved is read as it was given. -/
theorem kept (h : EntryRead members entry protocol) {key : String} (hkey : key ∉ movedFields) :
    entry.lookup key = members.lookup key := h.normalized.kept key hkey

/-- Without a field that the protocol does not have, nothing is left under an alias. -/
theorem illegal (h : EntryRead members entry protocol) {key : String}
    (hkey : legalField protocol key = false) : entry.lookup key = none := by
  cases hlookup : entry.lookup key with
  | none => rfl
  | some v =>
    have hlegal := h.legal key v hlookup
    rw [hkey] at hlegal
    cases hlegal

/-- An alias that no protocol has is absorbed. -/
theorem absorbed (h : EntryRead members entry protocol) {move : String × String}
    (hmove : move ∈ aliasMoves) (hkey : legalField protocol move.1 = false) {v : Json}
    (hv : members.lookup move.1 = some v ∨ members.lookup move.2 = some v) :
    entry.lookup move.2 = some v := by
  obtain ⟨-, hall⟩ | ⟨hspelling, hcanonical⟩ := h.normalized.merged move hmove
  · exact hall v hv
  · rw [h.illegal hkey] at hspelling
    rw [← hspelling] at hv
    obtain hv | hv := hv
    · cases hv
    · rw [hcanonical, hv]

/-- An alias and its canonical field have one value, if no protocol has both. -/
theorem movedPair (h : EntryRead members entry protocol) (move : String × String)
    (hmove : move ∈ aliasMoves)
    (hkeys : (legalField protocol move.1 && legalField protocol move.2) = false) :
    (AliasGroup.fields [move.2, move.1]).agrees (.obj members) = true := by
  apply AliasGroup.agrees_of_pair
  intro v w hv hw
  obtain ⟨-, hall⟩ | ⟨hspelling, hcanonical⟩ := h.normalized.merged move hmove
  · have hv := hall v (.inr hv)
    rw [hall w (.inl hw)] at hv
    exact (Option.some.inj hv).symm
  · rw [h.legal move.1 w (hspelling.trans hw), h.legal move.2 v (hcanonical.trans hv)] at hkeys
    cases hkeys

/-- The readers of the TLS settings accept an entry. -/
theorem tlsReads (h : EntryRead members entry protocol) :
    (∃ o, tlsServerName (.ofValue (.obj entry)) = .ok o) ∧
      (∃ b, tlsAllowInsecure (.ofValue (.obj entry)) = .ok b) ∧
      (∃ vs, tlsAlpn (.ofValue (.obj entry)) = .ok vs) ∧
      (∃ o, tlsFingerprint (.ofValue (.obj entry)) = .ok o) ∧
      ∃ o, tlsRealityFields (.ofValue (.obj entry)) = .ok o := by
  obtain ⟨t, ht⟩ := h.tls
  obtain ⟨-, ht⟩ := ok_seq.mp ht
  obtain ⟨serverName, hserverName, ht⟩ := ok_bind.mp ht
  obtain ⟨allowInsecure, hallowInsecure, ht⟩ := ok_bind.mp ht
  obtain ⟨alpn, halpn, ht⟩ := ok_bind.mp ht
  obtain ⟨fingerprint, hfingerprint, ht⟩ := ok_bind.mp ht
  obtain ⟨reality, hreality, ht⟩ := ok_bind.mp ht
  exact ⟨⟨_, hserverName⟩, ⟨_, hallowInsecure⟩, ⟨_, halpn⟩, ⟨_, hfingerprint⟩, ⟨_, hreality⟩⟩

/-- The member of the `tls` object, as the readers find it. -/
theorem tlsMember_eq (h : EntryRead members entry protocol) (key : String) :
    tlsMember (.ofValue (.obj entry)) key = (members.lookup "tls").bind (·.get? key) := by
  rw [← h.kept (by decide)]
  rfl

end EntryRead

/-- A string that is accepted under two spellings. -/
theorem resolveOptionalString_ok {first second : Option Json} {o : Option String}
    (h : resolveOptionalString first second = .ok o) {v : Json}
    (hv : first = some v ∨ second = some v) : v = (o.map Json.str).getD .null := by
  obtain ⟨s, ho, hs⟩ := resolveBoth_ok h hv
  rw [ho, Json.asStr?_eq_some.mp (required_eq_ok.mp hs).1]
  rfl

/-- A valid ALPN list is the array of its strings. -/
theorem eq_of_validAlpn {v : Json} (h : validAlpn v = true) :
    v = .arr ((alpnStrings v).map .str) := by
  have hentries : ∀ (vs : List Json) (seen : List String), validAlpnEntries seen vs = true →
      vs = (vs.filterMap Json.asStr?).map .str := by
    intro vs
    induction vs with
    | nil => exact fun _ _ => rfl
    | cons v vs ih =>
      intro seen hvalid
      rw [validAlpnEntries] at hvalid
      cases hs : v.asStr? with
      | none => simp [hs] at hvalid
      | some s =>
        simp only [hs, Bool.and_eq_true] at hvalid
        rw [List.filterMap_cons_some hs, List.map_cons, ← ih _ hvalid.2,
          Json.asStr?_eq_some.mp hs]
  unfold validAlpn at h
  cases hvs : v.asArr? with
  | none => simp [hvs] at h
  | some vs =>
    simp only [hvs, Bool.and_eq_true] at h
    rw [alpnStrings, hvs, Option.getD_some, ← hentries vs [] h.2]
    exact Json.asArr?_eq_some.mp hvs

namespace EntryRead

variable {members entry : List (String × Json)} {protocol : ProxyProtocol}

/-- The three spellings of the server name agree. -/
theorem serverName_agrees (h : EntryRead members entry protocol) :
    (AliasGroup.paths [["sni"], ["servername"], ["tls", "server_name"]]).agrees (.obj members) =
      true := by
  obtain ⟨⟨o, ho⟩, -⟩ := h.tlsReads
  have hillegal : legalField protocol "servername" = false := by cases protocol <;> decide
  rw [tlsServerName, h.tlsMember_eq] at ho
  apply AliasGroup.agrees_of_value ((o.map Json.str).getD .null)
  intro path hpath v hv
  simp only [AliasGroup.paths, List.mem_cons, List.not_mem_nil, or_false] at hpath
  obtain rfl | rfl | rfl := hpath
  · rw [at_field] at hv
    exact resolveOptionalString_ok ho (.inl (h.absorbed (.head _) hillegal (.inr hv)))
  · rw [at_field] at hv
    exact resolveOptionalString_ok ho (.inl (h.absorbed (.head _) hillegal (.inl hv)))
  · rw [at_nested] at hv
    exact resolveOptionalString_ok ho (.inr hv)

/-- So do the spellings of the certificate check. -/
theorem allowInsecure_agrees (h : EntryRead members entry protocol) :
    (AliasGroup.paths [["skip-cert-verify"], ["insecure"], ["tls", "insecure"]]).agrees
      (.obj members) = true := by
  obtain ⟨-, ⟨b, hb⟩, -⟩ := h.tlsReads
  obtain ⟨o, ho, -⟩ := map_eq_ok.mp hb
  have hmove : ("insecure", "skip-cert-verify") ∈ aliasMoves := by decide
  have hillegal : legalField protocol "insecure" = false := by cases protocol <;> decide
  rw [h.tlsMember_eq] at ho
  have hread {v : Json} (hv : entry.lookup "skip-cert-verify" = some v ∨
      (members.lookup "tls").bind (·.get? "insecure") = some v) :
      v = (o.map Json.bool).getD .null := by
    obtain ⟨a, ha, hva⟩ := resolveBoth_ok ho hv
    rw [ha, Json.asBool?_eq_some.mp (okOr_eq_ok.mp hva)]
    rfl
  apply AliasGroup.agrees_of_value ((o.map Json.bool).getD .null)
  intro path hpath v hv
  simp only [AliasGroup.paths, List.mem_cons, List.not_mem_nil, or_false] at hpath
  obtain rfl | rfl | rfl := hpath
  · rw [at_field] at hv
    exact hread (.inl (h.absorbed hmove hillegal (.inr hv)))
  · rw [at_field] at hv
    exact hread (.inl (h.absorbed hmove hillegal (.inl hv)))
  · rw [at_nested] at hv
    exact hread (.inr hv)

/-- So do the two lists of protocols. -/
theorem alpn_agrees (h : EntryRead members entry protocol) :
    (AliasGroup.paths [["alpn"], ["tls", "alpn"]]).agrees (.obj members) = true := by
  obtain ⟨-, -, ⟨vs, hvs⟩, -⟩ := h.tlsReads
  obtain ⟨o, ho, -⟩ := map_eq_ok.mp hvs
  rw [h.tlsMember_eq] at ho
  have hkept : (JsonFields.ofValue (.obj entry)).raw.lookup "alpn" = members.lookup "alpn" :=
    h.kept (by decide)
  rw [hkept] at ho
  have hread {v : Json} (hv : members.lookup "alpn" = some v ∨
      (members.lookup "tls").bind (·.get? "alpn") = some v) :
      v = (o.map fun strings => Json.arr (strings.map .str)).getD .null := by
    obtain ⟨strings, hstrings, hread⟩ := resolveBoth_ok ho hv
    split at hread
    · next hvalid =>
      cases hread
      rw [hstrings]
      exact eq_of_validAlpn hvalid
    · cases hread
  apply AliasGroup.agrees_of_value ((o.map fun strings => Json.arr (strings.map .str)).getD .null)
  intro path hpath v hv
  simp only [AliasGroup.paths, List.mem_cons, List.not_mem_nil, or_false] at hpath
  obtain rfl | rfl := hpath
  · rw [at_field] at hv
    exact hread (.inl hv)
  · rw [at_nested] at hv
    exact hread (.inr hv)

/-- Two spellings of a string that one reader compares. -/
theorem strings_agree {first second : List String} {o : Option String}
    (ho : resolveOptionalString ((Json.obj members).at? first) ((Json.obj members).at? second) =
      .ok o) : (AliasGroup.paths [first, second]).agrees (.obj members) = true := by
  apply AliasGroup.agrees_of_value ((o.map Json.str).getD .null)
  intro path hpath v hv
  simp only [AliasGroup.paths, List.mem_cons, List.not_mem_nil, or_false] at hpath
  obtain rfl | rfl := hpath
  · exact resolveOptionalString_ok ho (.inl hv)
  · exact resolveOptionalString_ok ho (.inr hv)

/-- A member of the TLS object is read from where it was moved to. -/
theorem at_tls (h : EntryRead members entry protocol) (outer key : String) :
    (Json.obj members).at? ["tls", outer, key] =
      (tlsMember (.ofValue (.obj entry)) outer).bind (·.get? key) := by
  rw [h.tlsMember_eq]
  simp only [Json.at?, Json.get?_obj]
  cases members.lookup "tls" with
  | none => rfl
  | some tls =>
    simp only [Option.bind_some]
    cases tls.get? outer with
    | none => rfl
    | some v => cases hv : v.get? key <;> simp [hv]

/-- The two spellings of the fingerprint agree. -/
theorem fingerprint_agrees (h : EntryRead members entry protocol) :
    (AliasGroup.paths [["client-fingerprint"], ["tls", "utls", "fingerprint"]]).agrees
      (.obj members) = true := by
  obtain ⟨-, -, -, ⟨o, ho⟩, -⟩ := h.tlsReads
  obtain ⟨value, hvalue, -⟩ := ok_bind.mp ho
  apply strings_agree (o := value)
  rw [h.at_tls, at_field, ← h.kept (by decide)]
  exact hvalue

/-- So do those of the two REALITY members. -/
theorem reality_agrees (h : EntryRead members entry protocol) :
    (AliasGroup.paths [["reality-opts", "public-key"], ["tls", "reality", "public_key"]]).agrees
        (.obj members) = true ∧
      (AliasGroup.paths [["reality-opts", "short-id"], ["tls", "reality", "short_id"]]).agrees
        (.obj members) = true := by
  obtain ⟨-, -, -, -, ⟨pair, hpair⟩⟩ := h.tlsReads
  obtain ⟨publicKey, hpublicKey, hpair⟩ := ok_bind.mp hpair
  obtain ⟨shortId, hshortId, -⟩ := ok_bind.mp hpair
  constructor
  · apply strings_agree (o := publicKey)
    rw [h.at_tls, at_nested, ← h.kept (by decide)]
    exact hpublicKey
  · apply strings_agree (o := shortId)
    rw [h.at_tls, at_nested, ← h.kept (by decide)]
    exact hshortId

/-- The readers of the early-data settings accept an entry. -/
theorem earlyDataReads (h : EntryRead members entry protocol) :
    ∃ r, websocketEarlyData (.ofValue (.obj entry)) = .ok r := by
  obtain ⟨t, ht⟩ := h.transport
  obtain ⟨r, hr, -⟩ := ok_bind.mp ht
  exact ⟨r, hr⟩

/-- Where the early-data settings stand, under either spelling, they are read. -/
theorem mem_earlyData (h : EntryRead members entry protocol) {dashes key : String} {v : Json}
    (hdashes : ∀ options merged, Absorbed options merged "max-early-data" "max_early_data" →
      Absorbed options merged "early-data-header-name" "early_data_header_name" →
      Absorbed options merged dashes key)
    (hv : (Json.obj members).at? ["ws-opts", key] = some v ∨
      (Json.obj members).at? ["ws-opts", dashes] = some v ∨
      (Json.obj members).at? ["transport", key] = some v) :
    v ∈ ["ws-opts", "transport"].filterMap fun outer =>
      ((JsonFields.ofValue (.obj entry)).raw.lookup outer).bind (·.get? key) := by
  have hwebsocket {spelling : String}
      (hv : (Json.obj members).at? ["ws-opts", spelling] = some v)
      (hspelling : spelling = dashes ∨ spelling = key) :
      (entry.lookup "ws-opts").bind (·.get? key) = some v := by
    rw [at_nested] at hv
    obtain ⟨found, hfound, hget⟩ := Option.bind_eq_some_iff.mp hv
    cases found with
    | obj options =>
      obtain ⟨merged, hmerged, hmax, hname⟩ := h.normalized.websocket options hfound
      obtain ⟨-, hall⟩ := hdashes options merged hmax hname
      rw [hmerged]
      obtain rfl | rfl := hspelling
      · exact hall v (.inl hget)
      · exact hall v (.inr hget)
    | null => cases hget
    | bool b => cases hget
    | num n => cases hget
    | str s => cases hget
    | arr vs => cases hget
  rw [List.mem_filterMap]
  obtain hv | hv | hv := hv
  · exact ⟨"ws-opts", by decide, hwebsocket hv (.inr rfl)⟩
  · exact ⟨"ws-opts", by decide, hwebsocket hv (.inl rfl)⟩
  · rw [at_nested, ← h.kept (by decide)] at hv
    exact ⟨"transport", by decide, hv⟩

/-- The three places of the early data size agree on its number. -/
theorem maxEarlyData_agrees (h : EntryRead members entry protocol) :
    (AliasGroup.mk [["ws-opts", "max_early_data"], ["ws-opts", "max-early-data"],
      ["transport", "max_early_data"]] maxEarlyDataValue).agrees (.obj members) = true := by
  obtain ⟨r, hr⟩ := h.earlyDataReads
  obtain ⟨limit, hlimit, -⟩ := ok_bind.mp hr
  obtain ⟨-, hall⟩ := resolveSpellings_ok hlimit
  apply AliasGroup.agrees_of_value
    ((limit.map fun n => Json.num (.posInt n.toUInt64)).getD .null)
  intro path hpath v hv
  have hread := hall v (h.mem_earlyData (fun _ _ hmax _ => hmax) (by
    simp only [List.mem_cons, List.not_mem_nil, or_false] at hpath
    obtain rfl | rfl | rfl := hpath
    · exact .inl hv
    · exact .inr (.inl hv)
    · exact .inr (.inr hv)))
  show maxEarlyDataValue v = _
  split at hread
  · cases hread
    rfl
  · obtain ⟨n, hn, hlimit⟩ := map_eq_ok.mp hread
    have hn := okOr_eq_ok.mp hn
    rw [maxEarlyDataValue, hn, ← hlimit]
    by_cases hpos : n > 0
    · rw [if_pos hpos, if_neg (fun hzero => by
        rw [Option.some.inj hzero] at hpos
        exact absurd hpos (by decide))]
      exact Json.eq_of_asU32? hn
    · have hzero : n = 0 := by
        apply UInt32.toNat_inj.mp
        have hle : ¬ 0 < n.toNat := hpos
        exact Nat.eq_zero_of_not_pos hle
      rw [if_neg hpos, hzero]
      rfl

/-- The three places of the early data header agree on its name. -/
theorem headerName_agrees (h : EntryRead members entry protocol) :
    (AliasGroup.mk [["ws-opts", "early_data_header_name"], ["ws-opts", "early-data-header-name"],
      ["transport", "early_data_header_name"]] headerNameValue).agrees (.obj members) = true := by
  obtain ⟨r, hr⟩ := h.earlyDataReads
  obtain ⟨limit, -, hr⟩ := ok_bind.mp hr
  obtain ⟨name, hname, -⟩ := ok_bind.mp hr
  obtain ⟨-, hall⟩ := resolveSpellings_ok hname
  apply AliasGroup.agrees_of_value ((name.map Json.str).getD .null)
  intro path hpath v hv
  have hread := hall v (h.mem_earlyData (fun _ _ _ hname => hname) (by
    simp only [List.mem_cons, List.not_mem_nil, or_false] at hpath
    obtain rfl | rfl | rfl := hpath
    · exact .inl hv
    · exact .inr (.inl hv)
    · exact .inr (.inr hv)))
  show headerNameValue v = _
  split at hread
  · cases hread
    rfl
  · next value =>
    cases hread
    by_cases hempty : value = ""
    · rw [if_pos hempty, hempty]
      rfl
    · have hne : (Json.str value).asStr? ≠ some "" := fun hs => hempty (Option.some.inj hs)
      rw [if_neg hempty, headerNameValue, if_neg hne]
      rfl
  · cases hread

end EntryRead

/-- The fields that the options of a protocol read under either spelling. -/
def dashedReads : ProxyProtocol → List String
  | .wireGuard => ["private_key", "peer_public_key", "pre_shared_key"]
  | .hysteria => ["auth_str", "up_mbps", "down_mbps"]
  | .tuic => ["congestion_control", "udp_relay_mode", "zero_rtt"]
  | .ssh => ["private_key", "private_key_passphrase", "host_key"]
  | _ => []

theorem rawValue_of_string {fields : JsonFields} {key : String} {o : Option String}
    (h : optionalRawString fields key = .ok o) : ∃ v, rawValue fields key = .ok v := by
  obtain ⟨v, hv, -⟩ := ok_bind.mp h
  exact ⟨v, hv⟩

/-- The options of a protocol read each of its dashed fields. -/
theorem rawValue_of_options {fields : JsonFields} {protocol : ProxyProtocol}
    {o : ProtocolOptions} (h : optionsFromFields fields protocol = .ok o) :
    ∀ key ∈ dashedReads protocol, ∃ v, rawValue fields key = .ok v := by
  intro key hkey
  cases protocol with
  | wireGuard =>
    obtain ⟨privateKey, hprivateKey, h⟩ := ok_bind.mp h
    obtain ⟨peerPublicKey, hpeerPublicKey, h⟩ := ok_bind.mp h
    obtain ⟨preSharedKey, hpreSharedKey, -⟩ := ok_bind.mp h
    obtain ⟨private', hprivate, -⟩ := ok_bind.mp hprivateKey
    obtain ⟨peer, hpeer, -⟩ := ok_bind.mp hpeerPublicKey
    simp only [dashedReads, List.mem_cons, List.not_mem_nil, or_false] at hkey
    obtain rfl | rfl | rfl := hkey
    · exact rawValue_of_string hprivate
    · exact rawValue_of_string hpeer
    · exact rawValue_of_string hpreSharedKey
  | hysteria =>
    obtain ⟨auth, -, h⟩ := ok_bind.mp h
    obtain ⟨authStr, hauthStr, h⟩ := ok_bind.mp h
    obtain ⟨chosen, -, h⟩ := ok_bind.mp h
    obtain ⟨obfs, -, h⟩ := ok_bind.mp h
    obtain ⟨up, hup, h⟩ := ok_bind.mp h
    obtain ⟨down, hdown, -⟩ := ok_bind.mp h
    simp only [dashedReads, List.mem_cons, List.not_mem_nil, or_false] at hkey
    obtain rfl | rfl | rfl := hkey
    · exact rawValue_of_string hauthStr
    · obtain ⟨v, hv, -⟩ := ok_bind.mp hup
      exact ⟨v, hv⟩
    · obtain ⟨v, hv, -⟩ := ok_bind.mp hdown
      exact ⟨v, hv⟩
  | tuic =>
    obtain ⟨uuid, -, h⟩ := ok_bind.mp h
    obtain ⟨password, -, h⟩ := ok_bind.mp h
    obtain ⟨congestionControl, hcongestionControl, h⟩ := ok_bind.mp h
    obtain ⟨udpRelayMode, hudpRelayMode, h⟩ := ok_bind.mp h
    obtain ⟨zeroRtt, hzeroRtt, -⟩ := ok_bind.mp h
    simp only [dashedReads, List.mem_cons, List.not_mem_nil, or_false] at hkey
    obtain rfl | rfl | rfl := hkey
    · exact rawValue_of_string hcongestionControl
    · exact rawValue_of_string hudpRelayMode
    · obtain ⟨v, hv, -⟩ := ok_bind.mp hzeroRtt
      exact ⟨v, hv⟩
  | ssh =>
    obtain ⟨user, -, h⟩ := ok_bind.mp h
    obtain ⟨username, -, h⟩ := ok_bind.mp h
    obtain ⟨chosen, -, h⟩ := ok_bind.mp h
    obtain ⟨privateKey, hprivateKey, h⟩ := ok_bind.mp h
    obtain ⟨passphrase, hpassphrase, h⟩ := ok_bind.mp h
    obtain ⟨hostKey, hhostKey, -⟩ := ok_bind.mp h
    simp only [dashedReads, List.mem_cons, List.not_mem_nil, or_false] at hkey
    obtain rfl | rfl | rfl := hkey
    · exact rawValue_of_string hprivateKey
    · exact rawValue_of_string hpassphrase
    · exact rawValue_of_string hhostKey
  | _ => cases hkey

namespace EntryRead

variable {members entry : List (String × Json)} {protocol : ProxyProtocol}

/-- A field that is read under either spelling stands under one of them. -/
theorem not_both (h : EntryRead members entry protocol) {key : String}
    (hread : key ∈ dashedReads protocol) (hkept : key ∉ movedFields ∧ dashed key ∉ movedFields)
    (hdashed : dashed key ≠ key) {v w : Json} (hv : members.lookup key = some v)
    (hw : members.lookup (dashed key) = some w) : False := by
  obtain ⟨o, ho⟩ := h.options
  obtain ⟨r, hr⟩ := rawValue_of_options ho key hread
  obtain hnone | hnone := rawValue_ok hr hdashed
  · have hnone : entry.lookup key = none := hnone
    rw [h.kept hkept.1, hv] at hnone
    cases hnone
  · have hnone : entry.lookup (dashed key) = none := hnone
    rw [h.kept hkept.2, hw] at hnone
    cases hnone

/-- A field that is still there is one that the protocol knows. -/
theorem legal_of_kept (h : EntryRead members entry protocol) {key : String} {v : Json}
    (hkept : key ∉ movedFields) (hv : members.lookup key = some v) :
    legalField protocol key = true :=
  h.legal key v ((h.kept hkept).trans hv)

/-- A field and its dashed spelling agree. -/
theorem dashed_agrees (h : EntryRead members entry protocol) {key : String}
    (hkey : key ∈ dashedFields) :
    (AliasGroup.fields [key, dashed key]).agrees (.obj members) = true := by
  have hkept : ∀ key ∈ dashedFields, key ∉ movedFields ∧ dashed key ∉ movedFields := by decide
  have hdashed : ∀ key ∈ dashedFields, dashed key ≠ key := by decide
  have hread : ∀ key ∈ dashedFields,
      (legalField protocol key && legalField protocol (dashed key)) = true →
        key ∈ dashedReads protocol := by
    cases protocol <;> decide
  apply AliasGroup.agrees_of_pair
  intro v w hv hw
  have hlegal := h.legal_of_kept (hkept key hkey).1 hv
  have hlegal' := h.legal_of_kept (hkept key hkey).2 hw
  exact (h.not_both (hread key hkey (by rw [hlegal, hlegal']; rfl)) (hkept key hkey)
    (hdashed key hkey) hv hw).elim

/-- The rates of Hysteria, in one of the two spellings of its first version or in the four
of its second, which are compared. -/
theorem rate_agrees (h : EntryRead members entry protocol) (key : String) (others : List String)
    (hkept : ∀ k ∈ key :: dashed key :: others, k ∉ movedFields)
    (hdashed : dashed key ≠ key) (hhysteria : key ∈ dashedReads .hysteria)
    (hlegal : ∀ k ∈ key :: dashed key :: others, legalField protocol k = true →
      protocol = .hysteria2 ∨ protocol = .hysteria ∧ k ∈ [key, dashed key])
    (hread : protocol = .hysteria2 → ∃ o, optionalPositiveU32Aliases (.ofValue (.obj entry))
      (key :: dashed key :: others) = .ok o) :
    (AliasGroup.fields (key :: dashed key :: others)).agrees (.obj members) = true := by
  apply AliasGroup.agrees_of_fields
  intro k hk k' hk' v w hv hw
  by_cases hsecond : protocol = .hysteria2
  · obtain ⟨o, ho⟩ := hread hsecond
    obtain ⟨-, hall⟩ := resolveSpellings_ok ho
    have hvalue {k : String} {v : Json} (hk : k ∈ key :: dashed key :: others)
        (hv : members.lookup k = some v) :
        v = (o.map fun n => Json.num (.posInt n.toUInt64)).getD .null := by
      rw [← h.kept (hkept k hk)] at hv
      obtain ⟨n, hn, hno⟩ := map_eq_ok.mp (hall v (List.mem_filterMap.mpr ⟨k, hk, hv⟩))
      rw [← hno]
      exact Json.eq_of_asU32? (Option.filter_eq_some_iff.mp (okOr_eq_ok.mp hn)).1
    rw [hvalue hk hv, hvalue hk' hw]
  · have hfirst {k : String} {v : Json} (hk : k ∈ key :: dashed key :: others)
        (hv : members.lookup k = some v) : protocol = .hysteria ∧ k ∈ [key, dashed key] :=
      (hlegal k hk (h.legal_of_kept (hkept k hk) hv)).resolve_left hsecond
    obtain ⟨rfl, hk₁⟩ := hfirst hk hv
    obtain ⟨-, hk₂⟩ := hfirst hk' hw
    have hkeys : key ∉ movedFields ∧ dashed key ∉ movedFields :=
      ⟨hkept key (by simp), hkept (dashed key) (by simp)⟩
    simp only [List.mem_cons, List.not_mem_nil, or_false] at hk₁ hk₂
    obtain rfl | rfl := hk₁
    · obtain rfl | rfl := hk₂
      · exact Option.some.inj (hv.symm.trans hw)
      · exact (h.not_both hhysteria hkeys hdashed hv hw).elim
    · obtain rfl | rfl := hk₂
      · exact (h.not_both hhysteria hkeys hdashed hw hv).elim
      · exact Option.some.inj (hv.symm.trans hw)

/-- What the options of the second version of Hysteria compare. -/
theorem hysteria2Reads (h : EntryRead members entry protocol) (hprotocol : protocol = .hysteria2) :
    (∃ o, optionalPositiveU32Aliases (.ofValue (.obj entry))
        ["up_mbps", "up-mbps", "up", "up-speed"] = .ok o) ∧
      (∃ o, optionalPositiveU32Aliases (.ofValue (.obj entry))
        ["down_mbps", "down-mbps", "down", "down-speed"] = .ok o) ∧
      ∃ o, optionalBoolAliases (.ofValue (.obj entry))
        ["disable_path_mtu_discovery", "disable_mtu_discovery"] = .ok o := by
  subst hprotocol
  obtain ⟨o, ho⟩ := h.options
  obtain ⟨password, -, ho⟩ := ok_bind.mp ho
  obtain ⟨obfs, -, ho⟩ := ok_bind.mp ho
  obtain ⟨up, hup, ho⟩ := ok_bind.mp ho
  obtain ⟨down, hdown, ho⟩ := ok_bind.mp ho
  obtain ⟨discovery, hdiscovery, -⟩ := ok_bind.mp ho
  exact ⟨⟨_, hup⟩, ⟨_, hdown⟩, ⟨_, hdiscovery⟩⟩

/-- So do the two names of the MTU option. -/
theorem mtuDiscovery_agrees (h : EntryRead members entry protocol) :
    (AliasGroup.fields ["disable_path_mtu_discovery", "disable_mtu_discovery"]).agrees
      (.obj members) = true := by
  have hlegal : legalField protocol "disable_mtu_discovery" = true → protocol = .hysteria2 := by
    cases protocol <;> decide
  apply AliasGroup.agrees_of_pair
  intro v w hv hw
  obtain ⟨-, -, o, ho⟩ := h.hysteria2Reads (hlegal (h.legal_of_kept (by decide) hw))
  obtain ⟨-, hall⟩ := resolveSpellings_ok ho
  have hvalue {k : String} {v : Json}
      (hk : k ∈ ["disable_path_mtu_discovery", "disable_mtu_discovery"]) (hkept : k ∉ movedFields)
      (hv : members.lookup k = some v) : v = (o.map Json.bool).getD .null := by
    rw [← h.kept hkept] at hv
    obtain ⟨b, hb, hbo⟩ := map_eq_ok.mp (hall v (List.mem_filterMap.mpr ⟨k, hk, hv⟩))
    rw [← hbo]
    exact Json.asBool?_eq_some.mp (okOr_eq_ok.mp hb)
  rw [hvalue (by decide) (by decide) hv, hvalue (by decide) (by decide) hw]

/-- **Spec.**  The compared aliases of an accepted entry agree. -/
theorem compared_agree (h : EntryRead members entry protocol) :
    comparedAliases.all (·.agrees (.obj members)) = true := by
  obtain ⟨hpublicKey, hshortId⟩ := h.reality_agrees
  simp only [comparedAliases, List.all_append, Bool.and_eq_true, List.all_map, List.all_cons,
    List.all_nil, and_true]
  refine ⟨⟨h.serverName_agrees, h.allowInsecure_agrees, h.alpn_agrees, h.fingerprint_agrees,
    hpublicKey, hshortId, h.maxEarlyData_agrees, h.headerName_agrees, ?_, ?_, ?_, ?_, ?_,
    h.mtuDiscovery_agrees⟩, List.all_eq_true.mpr fun key hkey => h.dashed_agrees hkey⟩
  · exact h.movedPair ("alterId", "alter_id") (by decide) (by cases protocol <;> decide)
  · exact h.movedPair ("cipher", "security") (by decide) (by cases protocol <;> decide)
  · exact h.movedPair ("auth", "password") (by decide) (by cases protocol <;> decide)
  · exact h.rate_agrees "up_mbps" ["up", "up-speed"] (by decide) (by decide)
      (by decide) (by cases protocol <;> decide) fun hprotocol => (h.hysteria2Reads hprotocol).1
  · exact h.rate_agrees "down_mbps" ["down", "down-speed"] (by decide)
      (by decide) (by decide) (by cases protocol <;> decide)
      fun hprotocol => (h.hysteria2Reads hprotocol).2.1

end EntryRead

/-! ## The compared aliases of an accepted link -/

/-- Spellings of which none or one is there agree. -/
theorem linkAgrees_of_short {parameters : List (String × String)} {spellings : List String}
    (h : (spellings.filterMap (parameters.lookup ·)).length ≤ 1) :
    linkAgrees parameters spellings = true := by
  rw [linkAgrees]
  cases hvalues : spellings.filterMap (parameters.lookup ·) with
  | nil => rfl
  | cons v rest =>
    rw [hvalues, List.length_cons] at h
    have hrest : rest = [] := List.length_eq_zero_iff.mp (by omega)
    simp [hrest]

/-- A key that no parameter has is not found. -/
theorem lookup_none {parameters : List (String × String)} {key : String}
    (h : ∀ p ∈ parameters, p.1 ≠ key) : parameters.lookup key = none := by
  rw [List.lookup_eq_none_iff]
  intro p hp
  simpa using (h p hp).symm

/-- Parameters that the link may not have agree. -/
theorem linkAgrees_of_unknown {parameters : List (String × String)} {spellings : List String}
    (h : ∀ p ∈ parameters, p.1 ∉ spellings) : linkAgrees parameters spellings = true := by
  have hnone : spellings.filterMap (parameters.lookup ·) = [] := by
    rw [List.filterMap_eq_nil_iff]
    exact fun key hkey => lookup_none fun p hp heq => h p hp (heq ▸ hkey)
  exact linkAgrees_of_short (by rw [hnone]; exact Nat.zero_le 1)

/-- `optional_query_u32_alias` accepts one spelling at most. -/
theorem optionalQueryU32Alias_ok {query : Query} {keys : List String} {o : Option UInt32}
    (h : optionalQueryU32Alias query keys = .ok o) : (keys.filterMap query.get).length ≤ 1 := by
  unfold optionalQueryU32Alias at h
  split at h
  · next hnone => rw [hnone]; exact Nat.zero_le 1
  · next hone => rw [hone]; exact Nat.le_refl 1
  · cases h

/-- The rates of a link: two spellings are not accepted together. -/
theorem plainRates_agree {protocol : ProxyProtocol} {scheme raw : String} {query : Query}
    {options : ProtocolOptions} {userinfo : List (String × String)}
    (hknown : hasUnknownUriQuery protocol query = false)
    (h : parseUriOptions protocol scheme raw query = .ok options)
    (huserinfo : ∀ p ∈ userinfo, p.1 = "@") :
    ∀ spellings ∈ comparedLinkAliases, linkAgrees (userinfo ++ query) spellings = true := by
  intro spellings hspellings
  have hplain : "@" ∉ spellings := by
    have hall : ∀ spellings ∈ comparedLinkAliases, "@" ∉ spellings := by decide
    exact hall spellings hspellings
  by_cases hprotocol : protocol = .hysteria
  · subst hprotocol
    obtain ⟨auth, -, h⟩ := ok_bind.mp h
    obtain ⟨up, hup, h⟩ := ok_bind.mp h
    obtain ⟨down, hdown, -⟩ := ok_bind.mp h
    have hlookup : spellings.filterMap (List.lookup · (userinfo ++ query)) =
        spellings.filterMap query.get := by
      apply List.filterMap_congr
      intro key hkey
      have hnone : userinfo.lookup key = none :=
        lookup_none fun p hp heq => hplain (huserinfo p hp ▸ heq ▸ hkey)
      rw [List.lookup_append, hnone, Option.none_or]
      rfl
    apply linkAgrees_of_short
    rw [hlookup]
    simp only [comparedLinkAliases, List.mem_cons, List.not_mem_nil, or_false] at hspellings
    obtain rfl | rfl := hspellings
    · exact optionalQueryU32Alias_ok hup
    · exact optionalQueryU32Alias_ok hdown
  · apply linkAgrees_of_unknown
    intro p hp hkey
    obtain hp | hp := List.mem_append.mp hp
    · exact hplain (huserinfo p hp ▸ hkey)
    · have hunknown : ∀ spellings ∈ comparedLinkAliases, ∀ key ∈ spellings,
          (commonQueryFields.contains key || (protocolQueryFields protocol).contains key) =
            false := by
        cases protocol with
        | hysteria => exact absurd rfl hprotocol
        | _ => decide
      have hentry : ¬ (!commonQueryFields.contains p.1 &&
          !(protocolQueryFields protocol).contains p.1) = true :=
        List.any_eq_false.mp hknown p hp
      rw [← Bool.not_or, hunknown spellings hspellings p.1 hkey] at hentry
      exact hentry rfl

/-- **Spec.**  The compared aliases of an accepted link agree. -/
theorem parseUri_compared {readers : DocumentReaders} {link : String} {draft : ProxyNodeDraft}
    (h : parseUri readers link = .ok draft) :
    comparedLinkAliases.all (linkAgrees (linkParameters readers link)) = true := by
  rw [List.all_eq_true]
  obtain ⟨⟨scheme, remainder⟩, hsplit, h⟩ := ok_bind.mp h
  rw [linkParameters, okOr_eq_ok.mp hsplit]
  dsimp only at h ⊢
  split at h
  · next hvmess =>
    rw [if_pos hvmess]
    obtain ⟨json, hjson, h⟩ := ok_bind.mp h
    obtain ⟨value, hvalue, h⟩ := ok_bind.mp h
    obtain ⟨object, hobject, h⟩ := ok_bind.mp h
    obtain ⟨entry, hentry, -⟩ := ok_bind.mp h
    obtain ⟨hlegal, -⟩ := ok_seq.mp hentry
    have hpayload : ((decodeBase64 ((Text.splitOnce "#" remainder).getD (remainder, "")).1).toOption.bind
        readers.json).bind Json.asObj? = some object := by
      have hdecoded : (decodeBase64 ((Text.splitOnce "#" remainder).getD (remainder, "")).1).toOption =
          some json := toOption_eq_some.mpr (mapError_eq_ok.mp hjson)
      rw [hdecoded, Option.bind_some, okOr_eq_ok.mp hvalue, Option.bind_some]
      exact okOr_eq_ok.mp hobject
    have hknown : hasOtherKey legacyVmessFields object = false := by
      have hlegal := reject_eq_ok.mp hlegal
      rw [Bool.eq_false_iff]
      intro hother
      rw [hasInvalidLegacyVmessFields, hother] at hlegal
      cases hlegal
    intro spellings hspellings
    apply linkAgrees_of_unknown
    intro p hp hkey
    have hall : ∀ spellings ∈ comparedLinkAliases, ∀ key ∈ spellings,
        key ≠ "#" ∧ legacyVmessFields.contains key = false := by decide
    obtain ⟨hne, hunknown⟩ := hall spellings hspellings p.1 hkey
    rw [hpayload, Option.getD_some] at hp
    obtain hp | hp := List.mem_append.mp hp
    · split at hp
      · cases hp
      · exact hne (List.mem_singleton.mp hp ▸ rfl)
    · obtain ⟨m, hm, hmp⟩ := List.mem_filterMap.mp hp
      obtain ⟨text, -, rfl⟩ := Option.map_eq_some_iff.mp hmp
      have hm := List.any_eq_false.mp hknown m hm
      rw [hunknown] at hm
      exact hm rfl
  · next hplain =>
    rw [if_neg hplain]
    obtain ⟨protocol, -, h⟩ := ok_bind.mp h
    obtain ⟨hostPort, -, h⟩ := ok_bind.mp h
    obtain ⟨query, hquery, h⟩ := ok_bind.mp h
    obtain ⟨hknown, h⟩ := ok_seq.mp h
    obtain ⟨-, h⟩ := ok_seq.mp h
    obtain ⟨options, hoptions, -⟩ := ok_bind.mp h
    intro spellings hspellings
    have hquery : (parseQuery ((Text.splitOnce "?" ((Text.splitOnce "#" remainder).getD
        (remainder, "")).1).getD (((Text.splitOnce "#" remainder).getD (remainder, "")).1,
          "")).2).toOption = some query := toOption_eq_some.mpr hquery
    rw [hquery, Option.getD_some]
    refine plainRates_agree (reject_eq_ok.mp hknown) hoptions (fun p hp => ?_) spellings hspellings
    split at hp
    · cases hp
    · rw [List.mem_singleton.mp hp]

/-! ## The result -/

/-- **Contradicting aliases** are accepted exactly where the first spelling wins: an accepted
entry, or link, has no others. -/
theorem aliases_agree_iff (readers : DocumentReaders) :
    (∀ context candidate draft, parseCandidate context candidate = some (.ok draft) →
      (aliasesAgree candidate = true ↔ firstWinsAgree candidate = true)) ∧
    ∀ link draft, parseUri readers link = .ok draft →
      (linkAliasesAgree readers link = true ↔ linkFirstWinsAgree readers link = true) := by
  constructor
  · intro context candidate draft h
    obtain ⟨members, entry, protocol, rfl, hread⟩ := parseCandidate_read h
    rw [aliasesAgree, List.all_append, hread.compared_agree, Bool.true_and]
    rfl
  · intro link draft h
    rw [linkAliasesAgree, List.all_append, parseUri_compared h, Bool.true_and]
    rfl

/-- A candidate whose parse is fine has a draft. -/
theorem accepted_of_isOk {context : JsonCandidateContext} {candidate : Json}
    (h : (parseCandidate context candidate).any (·.isOk) = true) :
    ∃ draft, parseCandidate context candidate = some (.ok draft) := by
  cases hparsed : parseCandidate context candidate with
  | none => simp [hparsed] at h
  | some parsed =>
    rw [hparsed] at h
    obtain ⟨draft, hdraft⟩ := exists_ok h
    exact ⟨draft, congrArg some hdraft⟩

/-- An entry with these members and a port. -/
def shadowsocksEntry (rest : List (String × Json)) : Json :=
  Json.object (rest ++ [("type", .str "ss"), ("name", .str "one"), ("server", .str "a"),
    ("cipher", .str "aes-128-gcm"), ("password", .str "p"), ("port", .num (.posInt 443))])

/-- Two spellings that agree, in an entry and in a link. -/
theorem aliases_agree_iff_same :
    aliasesAgree (shadowsocksEntry [("server_port", .num (.posInt 443))]) = true ∧
      linkAliasesAgree noReaders
        "wireguard://k@a:443?peer_public_key=p&publickey=p&address=10.0.0.1" = true := by
  constructor
  · obtain ⟨draft, hdraft⟩ := accepted_of_isOk
      (show (parseCandidate .proxies
        (shadowsocksEntry [("server_port", .num (.posInt 443))])).any (·.isOk) = true by
          decide +kernel)
    exact ((aliases_agree_iff noReaders).1 .proxies _ draft hdraft).mpr (by decide +kernel)
  · obtain ⟨draft, hdraft⟩ := exists_ok (x := parseUri noReaders
      "wireguard://k@a:443?peer_public_key=p&publickey=p&address=10.0.0.1") (by decide +kernel)
    exact ((aliases_agree_iff noReaders).2 _ draft hdraft).mpr (by decide +kernel)

/-- Two ports, and two public keys: the first one is taken. -/
theorem contradicting_aliases_accepted :
    (∃ draft, parseCandidate .proxies
        (shadowsocksEntry [("server_port", .num (.posInt 8443))]) = some (.ok draft) ∧
      aliasesAgree (shadowsocksEntry [("server_port", .num (.posInt 8443))]) = false) ∧
    ∃ draft, parseUri noReaders
        "wireguard://k@a:443?peer_public_key=p&publickey=q&address=10.0.0.1" = .ok draft ∧
      linkAliasesAgree noReaders
        "wireguard://k@a:443?peer_public_key=p&publickey=q&address=10.0.0.1" = false := by
  obtain ⟨draft, hdraft⟩ := accepted_of_isOk
    (show (parseCandidate .proxies
      (shadowsocksEntry [("server_port", .num (.posInt 8443))])).any (·.isOk) = true by
        decide +kernel)
  obtain ⟨linked, hlinked⟩ := exists_ok (x := parseUri noReaders
    "wireguard://k@a:443?peer_public_key=p&publickey=q&address=10.0.0.1") (by decide +kernel)
  exact ⟨⟨draft, hdraft, by decide +kernel⟩, linked, hlinked, by decide +kernel⟩

end Veyra
