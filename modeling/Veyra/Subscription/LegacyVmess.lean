import Veyra.Subscription.Aliases

/-!
# Veyra.Subscription.LegacyVmess

The object that a `vmess://` link carries is read twice: by
`has_invalid_legacy_vmess_fields`, which only looks, and by the reader of JSON
entries, after the fields have been renamed.  The first is spelled out as
`ValidLegacyObject`, the renaming as `LegacyEntry`, and the draft is computed
from both.
-/

namespace Veyra

open Check

/-! ## The object and its values -/

/-- The text that a `vmess://` link carries as base64. -/
def legacyVmessText (link : String) : Option String := do
  let (scheme, remainder) ← Text.splitOnce "://" link
  if eqIgnoreAsciiCase scheme "vmess" then
    (decodeBase64 ((Text.splitOnce "#" remainder).getD (remainder, "")).1).toOption
  else none

/-- The object that a `vmess://` link carries. -/
def legacyVmessObject (readers : DocumentReaders) (link : String) :
    Option (List (String × Json)) :=
  ((legacyVmessText link).bind readers.json).bind Json.asObj?

/-- The string under a key of an object. -/
def stringAt (object : List (String × Json)) (key : String) : Option String :=
  (object.lookup key).bind Json.asStr?

/-- The transport that an object describes; for gRPC its path is the service name. -/
def legacyTransport (object : List (String × Json)) : Option Transport :=
  match stringAt object "net" with
  | some "tcp" => some .tcp
  | some "ws" =>
    (stringAt object "path").map fun path => .websocket path (stringAt object "host") none none
  | some "grpc" => (stringAt object "path").map .grpc
  | _ => none

/-- The two names of the encryption of an object. -/
def legacySecurityFields : List String := ["scy", "security"]

/-- A draft has the values of an object, its numbers written either way. -/
structure CarriesValues (object : List (String × Json)) (draft : ProxyNodeDraft) : Prop where
  server : object.lookup "add" = some (.str draft.server)
  port : (object.lookup "port").bind numberOrString = some draft.port.toNat
  transport : draft.transport = legacyTransport object ∧ draft.transport.isSome = true
  options : ∃ uuid alterId security, draft.options = .vmess uuid alterId security ∧
    object.lookup "id" = some (.str uuid) ∧
    alterId.map UInt32.toNat = (object.lookup "aid").bind numberOrString ∧
    (∀ key ∈ legacySecurityFields, ∀ v, object.lookup key = some v →
      security.map Json.str = some v) ∧
    ∀ s, security = some s → ∃ key ∈ legacySecurityFields, object.lookup key = some (.str s)

/-- The draft of an object, for an alter id. -/
def legacyDraft (object : List (String × Json)) (alterId : Option UInt32) : ProxyNodeDraft :=
  { name := (stringAt object "ps").getD ""
    protocol := .vmess
    server := (stringAt object "add").getD ""
    port := UInt16.ofNat (((object.lookup "port").bind numberOrString).getD 0)
    options := .vmess ((stringAt object "id").getD "") alterId
      ((stringAt object "scy").or (stringAt object "security"))
    transport := legacyTransport object
    tls := if stringAt object "tls" = some "tls" then
        some (uriTlsOptions (stringAt object "sni") false none none)
      else none }

/-! ## What the validator accepts -/

/-- No key but the allowed ones is there. -/
theorem hasOtherKey_eq_false_iff {allowed : List String} {members : List (String × Json)} :
    hasOtherKey allowed members = false ↔ ∀ key ∉ allowed, members.lookup key = none := by
  constructor
  · intro h key hkey
    cases hv : members.lookup key with
    | none => rfl
    | some v =>
      have hmember := List.any_eq_false.mp h _ (mem_of_lookup hv)
      simp only [Bool.not_eq_true', Bool.not_eq_false, List.contains_iff_mem] at hmember
      exact absurd hmember hkey
  · intro h
    apply List.any_eq_false.mpr
    rintro ⟨key, v⟩ hmember
    by_cases hkey : key ∈ allowed
    · simpa using hkey
    · have hne := List.lookup_eq_none_iff.mp (h key hkey) _ hmember
      simp at hne

/-- A string that is not blank. -/
def IsText (v : Json) : Prop := ∃ s, v = .str s ∧ Text.blank s = false

/-- The transport fields of a valid object. -/
inductive ValidLegacyTransport (object : List (String × Json)) : Prop
  | tcp (net : object.lookup "net" = some (.str "tcp")) (path : object.lookup "path" = none)
      (host : object.lookup "host" = none)
  | ws (net : object.lookup "net" = some (.str "ws"))
      (path : ∃ v, object.lookup "path" = some v ∧ IsText v)
      (host : ∀ v, object.lookup "host" = some v → IsText v)
  | grpc (net : object.lookup "net" = some (.str "grpc"))
      (path : ∃ v, object.lookup "path" = some v ∧ IsText v) (host : object.lookup "host" = none)

/-- What `has_invalid_legacy_vmess_fields` makes sure of. -/
structure ValidLegacyObject (object : List (String × Json)) : Prop where
  known : ∀ key ∉ legacyVmessFields, object.lookup key = none
  text : ∀ key ∈ ["ps", "add", "id"], ∃ v, object.lookup key = some v ∧ IsText v
  port : ∃ port, (object.lookup "port").bind numberOrString = some port ∧ 0 < port ∧ port ≤ 65535
  aid : ∀ v, object.lookup "aid" = some v → (numberOrString v).isSome = true
  security : ∀ key ∈ legacySecurityFields, ∀ v, object.lookup key = some v → IsText v
  tls : ∀ v, object.lookup "tls" = some v → v = .str "" ∨ v = .str "tls"
  sni : ∀ v, object.lookup "sni" = some v → IsText v ∧ object.lookup "tls" = some (.str "tls")
  transport : ValidLegacyTransport object

/-- A text that is not blank is a text. -/
theorem isText_of_blank {v : Json} (h : v.asStr?.all Text.blank = false) : IsText v := by
  cases hv : v.asStr? with
  | none => simp [hv] at h
  | some s =>
    refine ⟨s, Json.asStr?_eq_some.mp hv, ?_⟩
    simpa [hv] using h

/-- A string that has to be there. -/
theorem text_of_blank {object : List (String × Json)} {key : String}
    (h : ((object.lookup key).bind Json.asStr?).all Text.blank = false) :
    ∃ v, object.lookup key = some v ∧ IsText v := by
  cases hv : object.lookup key with
  | none => simp [hv] at h
  | some v =>
    rw [hv] at h
    exact ⟨v, rfl, isText_of_blank h⟩

/-- A string that may be there. -/
theorem text_of_optional {object : List (String × Json)} {key : String} {v : Json}
    (h : ((object.lookup key).any fun v => v.asStr?.all Text.blank) = false)
    (hv : object.lookup key = some v) : IsText v := by
  rw [hv] at h
  exact isText_of_blank h

/-- A member that is read as a text is that text. -/
theorem eq_of_stringAt {object : List (String × Json)} {key s : String}
    (h : (object.lookup key).bind Json.asStr? = some s) : object.lookup key = some (.str s) := by
  obtain ⟨v, hv, hs⟩ := Option.bind_eq_some_iff.mp h
  rw [hv, Json.asStr?_eq_some.mp hs]

/-- What the check of the transport leaves of its members. -/
theorem validLegacyTransport {object : List (String × Json)}
    (h : (match (object.lookup "net").bind Json.asStr? with
      | some "tcp" => (object.lookup "path").isSome || (object.lookup "host").isSome
      | some "ws" => ((object.lookup "path").bind Json.asStr?).all Text.blank ||
          (object.lookup "host").any fun v => v.asStr?.all Text.blank
      | some "grpc" => ((object.lookup "path").bind Json.asStr?).all Text.blank ||
          (object.lookup "host").isSome
      | _ => true) = false) : ValidLegacyTransport object := by
  split at h
  · next hnet =>
    simp only [Bool.or_eq_false_iff, Option.isSome_eq_false_iff, Option.isNone_iff_eq_none] at h
    exact .tcp (eq_of_stringAt hnet) h.1 h.2
  · next hnet =>
    rw [Bool.or_eq_false_iff] at h
    exact .ws (eq_of_stringAt hnet) (text_of_blank h.1) fun v hv => text_of_optional h.2 hv
  · next hnet =>
    simp only [Bool.or_eq_false_iff, Option.isSome_eq_false_iff, Option.isNone_iff_eq_none] at h
    exact .grpc (eq_of_stringAt hnet) (text_of_blank h.1) h.2
  · cases h

/-- **Spec.**  `has_invalid_legacy_vmess_fields`. -/
theorem validLegacyObject {object : List (String × Json)}
    (h : hasInvalidLegacyVmessFields object = false) : ValidLegacyObject object := by
  unfold hasInvalidLegacyVmessFields at h
  simp only at h
  split at h
  · cases h
  · next hplain =>
    split at h
    · cases h
    · next htls =>
      simp only [Bool.not_eq_true, Bool.or_eq_false_iff, List.any_cons, List.any_nil,
        Bool.or_false] at hplain htls
      obtain ⟨⟨⟨⟨⟨⟨⟨hknown, -⟩, hps, hadd, hid⟩, -⟩, hport⟩, haid⟩, hscy⟩, hsecurity⟩ := hplain
      obtain ⟨⟨htls, hsni⟩, hneeds⟩ := htls
      constructor
      · exact hasOtherKey_eq_false_iff.mp hknown
      · intro key hkey
        simp only [List.mem_cons, List.not_mem_nil, or_false] at hkey
        obtain rfl | rfl | rfl := hkey
        · exact text_of_blank hps
        · exact text_of_blank hadd
        · exact text_of_blank hid
      · cases hv : object.lookup "port" with
        | none => simp [hv] at hport
        | some v =>
          cases hn : numberOrString v with
          | none => simp [hv, hn] at hport
          | some port =>
            simp only [hv, hn, Option.all_some, Bool.or_eq_false_iff, decide_eq_false_iff_not]
              at hport
            exact ⟨port, hn, by omega, by omega⟩
      · intro v hv
        rw [hv] at haid
        simpa [Option.isNone_eq_false_iff] using haid
      · intro key hkey v hv
        simp only [legacySecurityFields, List.mem_cons, List.not_mem_nil, or_false] at hkey
        obtain rfl | rfl := hkey
        · exact text_of_optional hscy hv
        · exact text_of_optional hsecurity hv
      · intro v hv
        rw [hv] at htls
        cases hs : v.asStr? with
        | none => simp [hs] at htls
        | some s =>
          rw [Json.asStr?_eq_some.mp hs]
          simp only [hs, Option.any_some, Option.all_some, Bool.and_eq_false_iff,
            bne_eq_false_iff_eq] at htls
          simpa using htls
      · intro v hv
        refine ⟨text_of_optional hsni hv, ?_⟩
        rw [hv] at hneeds
        have hstr : (object.lookup "tls").bind Json.asStr? = some "tls" := by simpa using hneeds
        exact eq_of_stringAt hstr
      · exact validLegacyTransport h

/-! ## The renamed fields -/

/-- A renamed member is found under its new name, and under that name alone. -/
theorem lookup_renameMember {old new : String} (members : List (String × Json)) (key : String) :
    (renameMember old new members).lookup key =
      match members.lookup old with
      | none => members.lookup key
      | some v => if key = new then some v else if key = old then none else members.lookup key := by
  unfold renameMember
  cases members.lookup old with
  | none => rfl
  | some v => simp only [Json.lookup_setMember, Json.lookup_removeMember]

/-- The fields that keep their name and their value. -/
def keptLegacyFields : List String := ["ps", "add", "port", "id", "net", "host", "sni", "pbk", "sid"]

/-- The fields of a renamed object. -/
def renamedLegacyFields : List String :=
  ["type", "alter_id", "security", "path", "grpc-opts", "tls"] ++ keptLegacyFields

/-- **Spec.**  The renaming of a valid object. -/
structure LegacyEntry (object entry : List (String × Json)) : Prop where
  type : entry.lookup "type" = some (.str "vmess")
  alterId : entry.lookup "alter_id" = object.lookup "aid"
  security : entry.lookup "security" = (object.lookup "scy").or (object.lookup "security")
  path : entry.lookup "path" =
    if stringAt object "net" = some "grpc" then none else object.lookup "path"
  grpcOpts : entry.lookup "grpc-opts" =
    if stringAt object "net" = some "grpc" then
      (object.lookup "path").map fun path => Json.obj [("grpc-service-name", path)]
    else none
  tls : entry.lookup "tls" =
    if stringAt object "tls" = some "" then none else object.lookup "tls"
  kept : ∀ key ∈ keptLegacyFields, entry.lookup key = object.lookup key
  others : ∀ key ∉ renamedLegacyFields, entry.lookup key = none

/-- The object between the two renamings and the transport. -/
def renamedObject (object : List (String × Json)) : List (String × Json) :=
  renameMember "scy" "security"
    (renameMember "aid" "alter_id" (Json.removeMember "type" (Json.removeMember "v" object)))

/-- What is found once all members were renamed. -/
theorem lookup_renamedObject {object : List (String × Json)}
    (h : ∀ key ∉ legacyVmessFields, object.lookup key = none) (key : String) :
    (renamedObject object).lookup key =
      if key ∈ ["v", "type", "aid", "scy"] then none
      else if key = "alter_id" then object.lookup "aid"
      else if key = "security" then (object.lookup "scy").or (object.lookup "security")
      else object.lookup key := by
  have halter : object.lookup "alter_id" = none := h _ (by decide)
  simp only [renamedObject, lookup_renameMember, Json.lookup_removeMember, List.mem_cons,
    List.not_mem_nil, or_false]
  cases hscy : object.lookup "scy" <;> cases haid : object.lookup "aid" <;> simp <;> grind

/-- The object after the transport has been renamed. -/
def transportRenamed (object : List (String × Json)) : List (String × Json) :=
  if stringAt object "net" = some "grpc" then
    Json.setMember "grpc-opts"
      (.obj [("grpc-service-name", (object.lookup "path").getD .null)])
      (Json.removeMember "path" (renamedObject object))
  else renamedObject object

/-- A gRPC object has a path, which holds the service name. -/
theorem path_of_grpc {object : List (String × Json)} (h : ValidLegacyObject object)
    (hgrpc : stringAt object "net" = some "grpc") : ∃ path, object.lookup "path" = some path := by
  cases h.transport with
  | tcp net _ _ => simp [stringAt, net, Json.asStr?] at hgrpc
  | ws net _ _ => simp [stringAt, net, Json.asStr?] at hgrpc
  | grpc _ path _ => exact ⟨_, path.choose_spec.1⟩

/-- The entry of a valid object. -/
def legacyEntry (object : List (String × Json)) : List (String × Json) :=
  Json.setMember "type" (.str "vmess")
    (if ((transportRenamed object).lookup "tls").any (·.asStr? = some "") then
      Json.removeMember "tls" (transportRenamed object)
    else transportRenamed object)

/-- An object that passes the check becomes an entry. -/
theorem legacyVmessEntry_eq {object : List (String × Json)}
    (h : hasInvalidLegacyVmessFields object = false) :
    legacyVmessEntry object = .ok (legacyEntry object) := by
  have hvalid := validLegacyObject h
  have hlookup := lookup_renamedObject hvalid.known
  have hnet : (renamedObject object).lookup "net" = object.lookup "net" := by
    rw [hlookup]
    rfl
  have hpath : (renamedObject object).lookup "path" = object.lookup "path" := by
    rw [hlookup]
    rfl
  by_cases hgrpc : stringAt object "net" = some "grpc"
  · obtain ⟨path, hpathSome⟩ := path_of_grpc hvalid hgrpc
    refine ok_seq.mpr ⟨by rw [h]; rfl, ?_⟩
    dsimp only
    rw [← renamedObject, hnet, ← stringAt, if_pos hgrpc, hpath, hpathSome, legacyEntry,
      transportRenamed, if_pos hgrpc, hpathSome]
    rfl
  · refine ok_seq.mpr ⟨by rw [h]; rfl, ?_⟩
    dsimp only
    rw [← renamedObject, hnet, ← stringAt, if_neg hgrpc, legacyEntry, transportRenamed,
      if_neg hgrpc]
    rfl

/-- What is found once the transport was renamed. -/
theorem lookup_transportRenamed (object : List (String × Json)) (key : String) :
    (transportRenamed object).lookup key =
      if stringAt object "net" = some "grpc" ∧ key = "grpc-opts" then
        some (.obj [("grpc-service-name", (object.lookup "path").getD .null)])
      else if stringAt object "net" = some "grpc" ∧ key = "path" then none
      else (renamedObject object).lookup key := by
  by_cases hgrpc : stringAt object "net" = some "grpc"
  · simp [transportRenamed, hgrpc]
  · simp [transportRenamed, hgrpc]

/-- What is found in the entry, key by key. -/
theorem lookup_legacyEntry {object : List (String × Json)} (h : ValidLegacyObject object)
    (key : String) :
    (legacyEntry object).lookup key =
      if key = "type" then some (.str "vmess")
      else if stringAt object "tls" = some "" ∧ key = "tls" then none
      else (transportRenamed object).lookup key := by
  have htls : (transportRenamed object).lookup "tls" = object.lookup "tls" := by
    rw [lookup_transportRenamed, lookup_renamedObject h.known]
    simp
  rw [legacyEntry, Json.lookup_setMember, htls]
  by_cases hempty : stringAt object "tls" = some ""
  · obtain ⟨v, hv, hs⟩ := Option.bind_eq_some_iff.mp hempty
    simp [hv, hs, hempty]
  · have hany : (object.lookup "tls").any (·.asStr? = some "") = false := by
      cases hv : object.lookup "tls" with
      | none => rfl
      | some v => simpa [stringAt, hv] using hempty
    simp [hany, hempty]

/-- The entry has the members of the object under the names of an entry. -/
theorem legacyEntry_renamed {object : List (String × Json)} (hvalid : ValidLegacyObject object) :
    LegacyEntry object (legacyEntry object) := by
  have hentry := lookup_legacyEntry hvalid
  simp only [lookup_transportRenamed, lookup_renamedObject hvalid.known] at hentry
  constructor
  · simp [hentry]
  · simp [hentry]
  · simp [hentry]
  · simp [hentry]
  · have hgrpcOpts : object.lookup "grpc-opts" = none := hvalid.known _ (by decide)
    by_cases hgrpc : stringAt object "net" = some "grpc"
    · obtain ⟨path, hpath⟩ := path_of_grpc hvalid hgrpc
      simp [hentry, hgrpc, hpath]
    · simp [hentry, hgrpc, hgrpcOpts]
  · simp [hentry]
  · intro key hkey
    simp only [keptLegacyFields, List.mem_cons, List.not_mem_nil, or_false] at hkey
    obtain rfl | rfl | rfl | rfl | rfl | rfl | rfl | rfl | rfl := hkey <;> simp [hentry]
  · intro key hkey
    simp only [renamedLegacyFields, keptLegacyFields, List.cons_append, List.nil_append,
      List.mem_cons, List.not_mem_nil, or_false, not_or] at hkey
    obtain ⟨htype, halter, hsecurity, hpath, hgrpcOpts, htls, hkept⟩ := hkey
    rw [hentry, if_neg htype, if_neg (by simp [htls]), if_neg (by simp [hgrpcOpts]),
      if_neg (by simp [hpath]), if_neg halter, if_neg hsecurity]
    split
    · rfl
    · next hnew =>
      apply hvalid.known
      simp only [List.mem_cons, List.not_mem_nil, or_false, not_or] at hnew
      simp only [legacyVmessFields, List.mem_cons, List.not_mem_nil, or_false, not_or]
      tauto

/-! ## The fields of the entry -/

/-- A port that the validator has read is read as a port. -/
theorem port_of_numberOrString {v : Json} {n : Nat} (h : numberOrString v = some n)
    (hn : n ≤ 65535) : (v.asU16?).or (v.asStr?.bind Text.parseU16) = some (UInt16.ofNat n) := by
  unfold numberOrString at h
  cases hv : v.asU64? with
  | some m =>
    have hm : m.toNat = n := by simpa [hv] using h
    have hle : m ≤ 0xffff := by
      rw [UInt64.le_iff_toNat_le, hm]
      exact hn
    rw [Json.asU16?, hv, Option.bind_some, if_pos hle, Option.some_or, ← hm]
    rfl
  | none =>
    have hs : v.asStr?.bind (Text.parseUnsigned (2 ^ 64)) = some n := by simpa [hv] using h
    obtain ⟨s, hstr, hparse⟩ := Option.bind_eq_some_iff.mp hs
    have hdigits := (Option.filter_eq_some_iff.mp hparse).1
    have hsmall : Text.parseUnsigned (2 ^ 16) s = some n :=
      Option.filter_eq_some_iff.mpr ⟨hdigits, by simp; omega⟩
    rw [Json.asU16?, hv, hstr, Option.bind_none, Option.none_or, Option.bind_some, Text.parseU16,
      hsmall]
    rfl

namespace LegacyEntry

variable {object entry : List (String × Json)}

/-- The common fields of the entry are those of the object. -/
theorem fields_eq (e : LegacyEntry object entry) (h : ValidLegacyObject object) :
    JsonFields.ofValue (.obj entry) =
      { name := stringAt object "ps"
        protocol := some "vmess"
        server := stringAt object "add"
        port := ((object.lookup "port").bind Json.asU16?).or
          ((stringAt object "port").bind Text.parseU16)
        uuid := stringAt object "id"
        password := none
        username := none
        cipher := none
        network := stringAt object "net"
        tls := if stringAt object "tls" = some "tls" then some true else none
        websocketPath := stringAt entry "path"
        websocketHost := stringAt object "host"
        grpcServiceName :=
          if stringAt object "net" = some "grpc" then stringAt object "path" else none
        raw := entry } := by
  have htls : ((entry.lookup "tls").bind Json.asBool?).or
      ((((entry.lookup "tls").bind (·.get? "enabled")).bind Json.asBool?).or
        (((entry.lookup "tls").bind Json.asStr?).map (· == "tls"))) =
      if stringAt object "tls" = some "tls" then some true else none := by
    rw [e.tls]
    cases hv : object.lookup "tls" with
    | none => simp [stringAt, hv]
    | some v =>
      obtain rfl | rfl := h.tls v hv
      · simp [stringAt, hv, Json.asStr?]
      · simp [stringAt, hv, Json.asStr?, Json.asBool?, Json.get?]
  have hgrpc : ((entry.lookup "grpc-opts").bind (·.get? "grpc-service-name")).bind Json.asStr? =
      if stringAt object "net" = some "grpc" then stringAt object "path" else none := by
    rw [e.grpcOpts, stringAt]
    split
    · cases hpath : object.lookup "path" <;> simp [stringAt, hpath]
    · rfl
  simp only [JsonFields.ofValue, Json.get?_obj, htls, hgrpc, e.type, e.others "name" (by decide),
    e.others "tag" (by decide), e.others "server" (by decide), e.others "server_port" (by decide),
    e.others "uuid" (by decide), e.others "password" (by decide), e.others "username" (by decide),
    e.others "cipher" (by decide), e.others "method" (by decide), e.others "network" (by decide),
    e.others "ws-opts" (by decide), e.others "transport" (by decide), e.kept "ps" (by decide),
    e.kept "add" (by decide), e.kept "port" (by decide), e.kept "id" (by decide),
    e.kept "net" (by decide), e.kept "host" (by decide), Option.bind_none, Option.none_or,
    Option.or_none, Json.asObj?, Option.getD_some]
  rfl

/-- The nested objects are well formed. -/
theorem nested (e : LegacyEntry object entry) (h : ValidLegacyObject object) :
    hasUnknownNestedFields (.obj entry) = false := by
  have htls : (entry.lookup "tls").any invalidTlsValue = false := by
    rw [e.tls]
    split
    · rfl
    · cases hv : object.lookup "tls" with
      | none => rfl
      | some v =>
        obtain rfl | rfl := h.tls v hv
        · next hnonempty => simp [stringAt, hv, Json.asStr?] at hnonempty
        · simp [invalidTlsValue]
  have hgrpc : (entry.lookup "grpc-opts").any (containsUnknown ["grpc-service-name"]) = false := by
    rw [e.grpcOpts]
    split
    · cases object.lookup "path" with
      | none => rfl
      | some path => simp [containsUnknown, hasOtherKey, Json.asObj?]
    · rfl
  simp [hasUnknownNestedFields, hasInvalidClashCompatibilityFields, htls, hgrpc,
    e.others "transport" (by decide), e.others "ws-opts" (by decide),
    e.others "reality-opts" (by decide), e.others "smux" (by decide), e.others "alpn" (by decide),
    e.others "client-fingerprint" (by decide), e.others "insecure" (by decide),
    e.others "udp" (by decide), e.others "protocol" (by decide),
    e.others "benchmark-url" (by decide), e.others "benchmark-timeout" (by decide),
    e.others "up" (by decide), e.others "up-speed" (by decide), e.others "down" (by decide),
    e.others "down-speed" (by decide), e.others "disable_mtu_discovery" (by decide),
    e.others "disable_path_mtu_discovery" (by decide)]

/-- The renamed fields are known ones, but for those of Reality. -/
theorem unknown_iff (e : LegacyEntry object entry) (h : ValidLegacyObject object) :
    hasUnknownJsonFields (.obj entry) = false ↔
      object.lookup "pbk" = none ∧ object.lookup "sid" = none := by
  have hknown : hasUnknownJsonFields (.obj entry) = hasOtherKey knownJsonFields entry := by
    simp [hasUnknownJsonFields, Json.asObj?, e.nested h]
  have hreality : ∀ key ∈ renamedLegacyFields, key ∉ knownJsonFields →
      key = "pbk" ∨ key = "sid" := by decide
  rw [hknown, hasOtherKey_eq_false_iff]
  constructor
  · intro hall
    rw [← e.kept "pbk" (by decide), ← e.kept "sid" (by decide)]
    exact ⟨hall "pbk" (by decide), hall "sid" (by decide)⟩
  · rintro ⟨hpbk, hsid⟩ key hkey
    by_cases hrenamed : key ∈ renamedLegacyFields
    · obtain rfl | rfl := hreality key hrenamed hkey
      · rw [e.kept "pbk" (by decide), hpbk]
      · rw [e.kept "sid" (by decide), hsid]
    · exact e.others key hrenamed

/-- The entry has no field that the protocol does not know, unless the object has a REALITY member. -/
theorem legal (e : LegacyEntry object entry) (h : ValidLegacyObject object)
    (hpbk : object.lookup "pbk" = none) (hsid : object.lookup "sid" = none) :
    hasIllegalProtocolFields (JsonFields.ofValue (.obj entry)) = false := by
  have hfields : ∀ key ∈ renamedLegacyFields, key ≠ "pbk" → key ≠ "sid" →
      legalField .vmess key = true := by decide
  rw [e.fields_eq h]
  apply List.any_eq_false.mpr
  rintro ⟨key, v⟩ hmember
  have hsome : entry.lookup key ≠ none := by
    intro hnone
    have hne := List.lookup_eq_none_iff.mp hnone _ hmember
    simp at hne
  have hlegal : legalField .vmess key = true := by
    apply hfields key
    · by_contra hkey
      exact hsome (e.others key hkey)
    · rintro rfl
      rw [e.kept "pbk" (by decide)] at hsome
      exact hsome hpbk
    · rintro rfl
      rw [e.kept "sid" (by decide)] at hsome
      exact hsome hsid
  rw [← Bool.not_or, Bool.not_eq_true', Bool.not_eq_false]
  exact hlegal

/-! ## The parts of the draft -/

/-- Fields that only other protocols have are not there. -/
theorem metadata (e : LegacyEntry object entry) :
    validateClashProtocolMetadata (.ofValue (.obj entry)) .vmess = .ok () := by
  have hudp : entry.lookup "udp" = none := e.others _ (by decide)
  have hpacket : entry.lookup "packet_encoding" = none := e.others _ (by decide)
  have hprotocol : entry.lookup "protocol" = none := e.others _ (by decide)
  have hurl : entry.lookup "benchmark-url" = none := e.others _ (by decide)
  have htimeout : entry.lookup "benchmark-timeout" = none := e.others _ (by decide)
  rw [validateClashProtocolMetadata]
  simp only [JsonFields.ofValue, Json.asObj?, Option.getD_some, hudp, hpacket, hprotocol, hurl,
    htimeout]
  rfl

/-- The entry asks for no multiplexing. -/
theorem smux (e : LegacyEntry object entry) :
    validateSmux (.ofValue (.obj entry)) .vmess = .ok false := by
  have hsmux : entry.lookup "smux" = none := e.others _ (by decide)
  simp only [validateSmux, JsonFields.ofValue, Json.asObj?, Option.getD_some, hsmux]

/-- The alter id is read if it is absent or a number in range. -/
theorem alterId_iff (e : LegacyEntry object entry) (h : ValidLegacyObject object)
    {o : Option UInt32} :
    optionalRawU32 (.ofValue (.obj entry)) "alter_id" = .ok o ↔
      (object.lookup "aid").map Json.asU32? = o.map some := by
  have hdashed : entry.lookup (dashed "alter_id") = none := e.others _ (by decide)
  have hraw : rawValue (.ofValue (.obj entry)) "alter_id" = .ok (object.lookup "aid") := by
    simp only [rawValue, JsonFields.ofValue, Json.asObj?, Option.getD_some, hdashed, e.alterId]
    cases object.lookup "aid" <;> rfl
  rw [optionalRawU32, hraw, ok_bind]
  cases haid : object.lookup "aid" with
  | none =>
    cases o <;> simp
  | some v =>
    have hnumber := h.aid v haid
    have hread (w : Option UInt32) :
        (okOr w SkippedNode.invalidNode).map some = .ok o ↔ some w = o.map some := by
      cases w <;> cases o <;> simp [okOr, Except.map]
    refine Iff.trans ?_ (hread v.asU32?)
    cases v with
    | null => simp [numberOrString, Json.asU64?, Json.asStr?] at hnumber
    | bool | num | str | arr | obj => simp

/-- The security is read from either of its two names. -/
theorem security_eq (e : LegacyEntry object entry) (h : ValidLegacyObject object) :
    optionalRawString (.ofValue (.obj entry)) "security" =
      .ok ((stringAt object "scy").or (stringAt object "security")) := by
  have hraw : rawValue (.ofValue (.obj entry)) "security" =
      .ok ((object.lookup "scy").or (object.lookup "security")) := by
    have hdashed : dashed "security" = "security" := by decide
    simp only [rawValue, JsonFields.ofValue, Json.asObj?, Option.getD_some, hdashed, e.security]
    cases (object.lookup "scy").or (object.lookup "security") <;> simp
  rw [optionalRawString, hraw]
  cases hscy : object.lookup "scy" with
  | some v =>
    obtain ⟨s, rfl, hs⟩ := h.security "scy" (by decide) v hscy
    simp [stringAt, hscy, Json.asStr?, hs, bind, Except.bind]
  | none =>
    cases hsecurity : object.lookup "security" with
    | some v =>
      obtain ⟨s, rfl, hs⟩ := h.security "security" (by decide) v hsecurity
      simp [stringAt, hscy, hsecurity, Json.asStr?, hs, bind, Except.bind]
    | none => simp [stringAt, hscy, hsecurity, bind, Except.bind]

/-- The transport of the entry is the one of the object. -/
theorem transport_eq (e : LegacyEntry object entry) (h : ValidLegacyObject object) :
    ∃ transport, transportFromFields (.ofValue (.obj entry)) = .ok transport ∧
      legacyTransport object = some transport := by
  have hearly : websocketEarlyData (.ofValue (.obj entry)) = .ok (none, none, false) := by
    simp only [websocketEarlyData, JsonFields.ofValue, Json.asObj?, Option.getD_some,
      List.filterMap_cons, List.filterMap_nil, e.others "ws-opts" (by decide),
      e.others "transport" (by decide), Option.bind_none]
    rfl
  have hfields := e.fields_eq h
  cases h.transport with
  | tcp net path host =>
    refine ⟨.tcp, ok_bind.mpr ⟨_, hearly, ?_⟩, by simp [legacyTransport, stringAt, net, Json.asStr?]⟩
    simp [hfields, stringAt, net, Json.asStr?]
  | ws net path host =>
    obtain ⟨v, hv, s, rfl, hs⟩ := path
    refine ⟨.websocket s (stringAt object "host") none none, ok_bind.mpr ⟨_, hearly, ?_⟩, ?_⟩
    · simp only [hfields, stringAt, e.path, net, hv, Json.asStr?, Option.bind_some]
      rfl
    · simp [legacyTransport, stringAt, net, hv, Json.asStr?]
  | grpc net path host =>
    obtain ⟨v, hv, s, rfl, hs⟩ := path
    refine ⟨.grpc s, ok_bind.mpr ⟨_, hearly, ?_⟩, ?_⟩
    · simp [hfields, stringAt, net, hv, Json.asStr?]
    · simp [legacyTransport, stringAt, net, hv, Json.asStr?]

/-- The TLS settings of an object: the server name needs TLS. -/
theorem tls_eq (e : LegacyEntry object entry) (h : ValidLegacyObject object) :
    tlsFromFields (.ofValue (.obj entry)) .vmess =
      .ok (if stringAt object "tls" = some "tls" then
        some (uriTlsOptions (stringAt object "sni") false none none) else none) := by
  have hmember (key : String) : tlsMember (.ofValue (.obj entry)) key = none := by
    have hplain : (entry.lookup "tls").bind (·.get? key) = none := by
      rw [e.tls]
      split
      · rfl
      · cases hv : object.lookup "tls" with
        | none => rfl
        | some v => obtain rfl | rfl := h.tls v hv <;> rfl
    simpa only [tlsMember, JsonFields.ofValue, Json.asObj?, Option.getD_some] using hplain
  have hraw : (JsonFields.ofValue (.obj entry)).raw = entry := rfl
  have hname : tlsServerName (.ofValue (.obj entry)) = .ok (stringAt object "sni") := by
    rw [tlsServerName, hmember, hraw, e.kept "sni" (by decide), stringAt]
    cases hv : object.lookup "sni" with
    | none => rfl
    | some v =>
      obtain ⟨s, rfl, hs⟩ := (h.sni v hv).1
      simp [resolveOptionalString, resolveBoth, requiredNonblank, required, Json.asStr?, hs,
        Option.filter, okOr, Except.map]
  have hinsecure : tlsAllowInsecure (.ofValue (.obj entry)) = .ok false := by
    rw [tlsAllowInsecure, hmember, hraw, e.others "skip-cert-verify" (by decide)]
    rfl
  have halpn : tlsAlpn (.ofValue (.obj entry)) = .ok [] := by
    rw [tlsAlpn, hmember, hraw, e.others "alpn" (by decide)]
    rfl
  have hfingerprint : tlsFingerprint (.ofValue (.obj entry)) = .ok none := by
    rw [tlsFingerprint, hmember, hraw, e.others "client-fingerprint" (by decide)]
    rfl
  have hreality : tlsRealityFields (.ofValue (.obj entry)) = .ok (none, none) := by
    rw [tlsRealityFields, hmember, hraw, e.others "reality-opts" (by decide)]
    rfl
  have henabled : (JsonFields.ofValue (.obj entry)).tls =
      if stringAt object "tls" = some "tls" then some true else none := by
    rw [e.fields_eq h]
  rw [tlsFromFields, hname, hinsecure, halpn, hfingerprint, hreality, henabled]
  by_cases htls : stringAt object "tls" = some "tls"
  · rw [if_pos htls, if_pos htls]
    rfl
  · have hsni : stringAt object "sni" = none := by
      cases hv : object.lookup "sni" with
      | none => simp [stringAt, hv]
      | some v => simp [stringAt, (h.sni v hv).2, Json.asStr?] at htls
    rw [if_neg htls, if_neg htls, hsni]
    rfl

/-- The port may be a number or a text. -/
theorem port_eq (e : LegacyEntry object entry) (h : ValidLegacyObject object) :
    ∃ port : UInt16, (JsonFields.ofValue (.obj entry)).port = some port ∧ 0 < port ∧
      (object.lookup "port").bind numberOrString = some port.toNat := by
  obtain ⟨n, hn, hpos, hle⟩ := h.port
  obtain ⟨v, hv, hnumber⟩ := Option.bind_eq_some_iff.mp hn
  have hnat : (UInt16.ofNat n).toNat = n := UInt16.toNat_ofNat_of_lt' (by change n < 65536; omega)
  refine ⟨UInt16.ofNat n, ?_, ?_, by rw [hnat, hn]⟩
  · rw [e.fields_eq h]
    have hport := port_of_numberOrString hnumber hle
    simpa [stringAt, hv] using hport
  · rw [UInt16.lt_iff_toNat_lt, hnat]
    exact hpos

/-- **Spec.**  The draft of a valid object, if there is one. -/
theorem draft_iff (e : LegacyEntry object entry) (h : ValidLegacyObject object)
    {draft : ProxyNodeDraft} :
    draftFromEntry (.obj entry) = .ok draft ↔
      (object.lookup "pbk" = none ∧ object.lookup "sid" = none) ∧
      ∃ alterId, (object.lookup "aid").map Json.asU32? = Option.map some alterId ∧
        legacyDraft object alterId = draft := by
  have htext {key : String} (hkey : key ∈ ["ps", "add", "id"]) :
      ∃ s, stringAt object key = some s ∧ Text.blank s = false := by
    obtain ⟨v, hv, s, rfl, hs⟩ := h.text key hkey
    exact ⟨s, by simp [stringAt, hv, Json.asStr?], hs⟩
  obtain ⟨name, hname, hnameText⟩ := @htext "ps" (by decide)
  obtain ⟨server, hserver, hserverText⟩ := @htext "add" (by decide)
  obtain ⟨uuid, huuid, huuidText⟩ := @htext "id" (by decide)
  obtain ⟨port, hport, hpos, hnumber⟩ := e.port_eq h
  obtain ⟨transport, htransport, hlegacy⟩ := e.transport_eq h
  have hfields := e.fields_eq h
  have hprotocol : (JsonFields.ofValue (.obj entry)).protocol.bind protocolFromName =
      some .vmess := by
    rw [hfields]
    exact (by decide : protocolFromName "vmess" = some .vmess)
  have hname' : requiredNonblank (JsonFields.ofValue (.obj entry)).name = .ok name :=
    required_eq_ok.mpr ⟨by rw [hfields, hname], by rw [hnameText]; rfl⟩
  have hserver' : requiredNonblank (JsonFields.ofValue (.obj entry)).server = .ok server :=
    required_eq_ok.mpr ⟨by rw [hfields, hserver], by rw [hserverText]; rfl⟩
  have huuid' : requiredNonempty (JsonFields.ofValue (.obj entry)).uuid = .ok uuid :=
    required_eq_ok.mpr ⟨by rw [hfields, huuid], by simpa using Text.ne_empty_of_not_blank huuidText⟩
  have hport' : okOr ((JsonFields.ofValue (.obj entry)).port.filter (· > 0)) SkippedNode.invalidNode
      = .ok port := by
    rw [hport, okOr_eq_ok]
    exact Option.filter_eq_some_iff.mpr ⟨rfl, by simpa using hpos⟩
  have hnat : UInt16.ofNat port.toNat = port := UInt16.ofNat_toNat
  have hdraft : draftFromFields (.ofValue (.obj entry)) =
      (optionalRawU32 (.ofValue (.obj entry)) "alter_id").map (legacyDraft object) := by
    rw [draftFromFields, hprotocol, hname', hserver', hport']
    simp only [okOr, bind, Except.bind, e.metadata, e.smux, optionsFromFields, huuid',
      e.security_eq h, htransport, e.tls_eq h]
    cases optionalRawU32 (.ofValue (.obj entry)) "alter_id" with
    | error reason => rfl
    | ok alterId =>
      have hcompatible : ((ProtocolOptions.vmess uuid alterId
          ((stringAt object "scy").or (stringAt object "security"))).isCompatibleWith .vmess) =
          true := by
        simp [ProtocolOptions.isCompatibleWith, ProtocolOptions.variantMatches,
          ProtocolOptions.hasRequiredValues, huuidText]
      simp only [Except.map, legacyDraft, hname, hserver, huuid, hnumber, hlegacy,
        Option.getD_some, hnat, hcompatible]
      rfl
  constructor
  · intro hok
    obtain ⟨hunknown, hok⟩ := ok_seq.mp hok
    obtain ⟨-, hok⟩ := ok_seq.mp hok
    rw [hdraft] at hok
    obtain ⟨alterId, halter, rfl⟩ := map_eq_ok.mp hok
    exact ⟨(e.unknown_iff h).mp (reject_eq_ok.mp hunknown), alterId, (e.alterId_iff h).mp halter,
      rfl⟩
  · rintro ⟨hreality, alterId, halter, rfl⟩
    refine ok_seq.mpr ⟨reject_eq_ok.mpr ((e.unknown_iff h).mpr hreality), ?_⟩
    refine ok_seq.mpr ⟨reject_eq_ok.mpr (e.legal h hreality.1 hreality.2), ?_⟩
    rw [hdraft]
    exact map_eq_ok.mpr ⟨alterId, (e.alterId_iff h).mpr halter, rfl⟩

end LegacyEntry

/-! ## A link in a list -/

/-- Two lists of results are collected one after the other. -/
theorem collectParsed_append (xs ys : List (Parsed ProxyNodeDraft)) :
    collectParsed (xs ++ ys) =
      ((collectParsed xs).1 ++ (collectParsed ys).1, (collectParsed xs).2 ++ (collectParsed ys).2) := by
  induction xs with
  | nil => rfl
  | cons x xs ih => cases x <;> simp [collectParsed, ih]

/-- What the lines of a list become. -/
def parseLinks (readers : DocumentReaders) (links : List String) :
    List ProxyNodeDraft × List SkippedNode :=
  collectParsed (links.map (parseUri readers))

/-- Wherever a link stands in a list, it gives this node and is not skipped. -/
def GivesNode (readers : DocumentReaders) (link : String) (draft : ProxyNodeDraft) : Prop :=
  ∀ before after, parseLinks readers (before ++ link :: after) =
    ((parseLinks readers before).1 ++ draft :: (parseLinks readers after).1,
      (parseLinks readers before).2 ++ (parseLinks readers after).2)

/-- Wherever a link stands in a list, it is skipped and gives no node. -/
def IsSkipped (readers : DocumentReaders) (link : String) : Prop :=
  ∃ reason, ∀ before after, parseLinks readers (before ++ link :: after) =
    ((parseLinks readers before).1 ++ (parseLinks readers after).1,
      (parseLinks readers before).2 ++ reason :: (parseLinks readers after).2)

/-- A single link gives the node that it is parsed to. -/
theorem givesNode_iff {readers : DocumentReaders} {link : String} {draft : ProxyNodeDraft} :
    GivesNode readers link draft ↔ parseUri readers link = .ok draft := by
  constructor
  · intro h
    have hone := h [] []
    cases hparse : parseUri readers link with
    | error reason => simp [parseLinks, hparse, collectParsed] at hone
    | ok found =>
      simp only [parseLinks, List.nil_append, List.map_cons, List.map_nil, hparse, collectParsed,
        Prod.mk.injEq, List.cons.injEq, and_true] at hone
      rw [hone]
  · intro h before after
    simp [parseLinks, collectParsed_append, h, collectParsed]

/-- A link that is not parsed is skipped. -/
theorem isSkipped_of_error {readers : DocumentReaders} {link : String} {reason : SkippedNode}
    (h : parseUri readers link = .error reason) : IsSkipped readers link := by
  refine ⟨reason, fun before after => ?_⟩
  simp [parseLinks, collectParsed_append, h, collectParsed]

/-- A link is read from the object it carries; its fragment only names the node. -/
theorem parseUri_legacy {readers : DocumentReaders} {link : String}
    {object : List (String × Json)} (h : legacyVmessObject readers link = some object) :
    ∃ fragment, parseUri readers link = (legacyVmessEntry object >>= fun entry =>
      draftFromEntry (.obj entry) >>= fun draft =>
        .ok { draft with name := if fragment = "" then draft.name else percentDecode fragment }) := by
  obtain ⟨value, hvalue, hobject⟩ := Option.bind_eq_some_iff.mp h
  obtain ⟨json, hjson, hvalue⟩ := Option.bind_eq_some_iff.mp hvalue
  obtain ⟨⟨scheme, remainder⟩, hsplit, hjson⟩ := Option.bind_eq_some_iff.mp hjson
  dsimp only at hjson
  split at hjson
  · next hscheme =>
    rw [toOption_eq_some] at hjson
    refine ⟨((Text.splitOnce "#" remainder).getD (remainder, "")).2, ?_⟩
    rw [parseUri, hsplit]
    simp only [okOr, bind, Except.bind, hscheme, if_true, parseLegacyVmess, hjson, hvalue, hobject,
      Except.mapError]
  · cases hjson

/-! ## The agreement -/

/-- The validator and the reader of the entry say the same about the object of a link. -/
def LegacyVmessAgrees (readers : DocumentReaders) (link : String) (object : List (String × Json)) :
    Prop :=
  (hasInvalidLegacyVmessFields object = false →
    ∃ draft, GivesNode readers link draft ∧ CarriesValues object draft) ∧
  (hasInvalidLegacyVmessFields object = true → IsSkipped readers link)

/-- An alter id that is a number in the range of `u32`, if there is one, no Reality fields,
and one encryption. -/
def legacyVmessReadable (object : List (String × Json)) : Bool :=
  (object.lookup "aid").all (·.asU32?.isSome) &&
    (object.lookup "pbk").isNone && (object.lookup "sid").isNone &&
    (stringAt object "scy").all fun s => (stringAt object "security").all (· == s)

/-- A security value is always a text. -/
theorem stringAt_security {object : List (String × Json)} (h : ValidLegacyObject object)
    {key : String} (hkey : key ∈ legacySecurityFields) {v : Json}
    (hv : object.lookup key = some v) : (stringAt object key).map Json.str = some v := by
  obtain ⟨s, rfl, -⟩ := h.security key hkey v hv
  rw [stringAt, hv]
  rfl

/-- The draft has the encryption of the object if both its names give one. -/
theorem security_agrees_iff {object : List (String × Json)} (h : ValidLegacyObject object) :
    ((∀ key ∈ legacySecurityFields, ∀ v, object.lookup key = some v →
        ((stringAt object "scy").or (stringAt object "security")).map Json.str = some v) ∧
      ∀ s, (stringAt object "scy").or (stringAt object "security") = some s →
        ∃ key ∈ legacySecurityFields, object.lookup key = some (.str s)) ↔
    ((stringAt object "scy").all fun s => (stringAt object "security").all (· == s)) = true := by
  constructor
  · rintro ⟨hall, -⟩
    cases hscy : stringAt object "scy" with
    | none => rfl
    | some s =>
      cases hsecurity : stringAt object "security" with
      | none => rfl
      | some t =>
        have hsame := hall "security" (by decide) _ (eq_of_stringAt hsecurity)
        simp only [hscy, Option.some_or, Option.map_some, Option.some.injEq, Json.str.injEq]
          at hsame
        simp [hsame]
  · intro hagree
    constructor
    · intro key hkey v hv
      have hstring := stringAt_security h hkey hv
      simp only [legacySecurityFields, List.mem_cons, List.not_mem_nil, or_false] at hkey
      obtain rfl | rfl := hkey
      · cases hscy : stringAt object "scy" with
        | none => simp [hscy] at hstring
        | some s => simpa [hscy] using hstring
      · cases hscy : stringAt object "scy" with
        | none => simpa using hstring
        | some s =>
          cases hsecurity : stringAt object "security" with
          | none => simp [hsecurity] at hstring
          | some t =>
            have hsame : t = s := by simpa [hscy, hsecurity] using hagree
            simpa [hsecurity, hsame] using hstring
    · intro s hs
      cases hscy : stringAt object "scy" with
      | none =>
        rw [hscy, Option.none_or] at hs
        exact ⟨"security", by decide, eq_of_stringAt hs⟩
      | some t =>
        rw [hscy, Option.some_or] at hs
        exact ⟨"scy", by decide, eq_of_stringAt (hscy.trans hs)⟩

/-- An alter id that is read has the value of the object. -/
theorem alterId_value {object : List (String × Json)} {alterId : Option UInt32}
    (h : (object.lookup "aid").map Json.asU32? = alterId.map some) :
    alterId.map UInt32.toNat = (object.lookup "aid").bind numberOrString := by
  cases haid : object.lookup "aid" with
  | none =>
    rw [haid] at h
    cases alterId with
    | none => rfl
    | some n => cases h
  | some v =>
    rw [haid] at h
    cases alterId with
    | none => cases h
    | some n =>
      have hv : v.asU32? = some n := Option.some.inj h
      rw [Json.eq_of_asU32? hv]
      simp [numberOrString, Json.asU64?]

/-- **Spec.**  A draft carries the values of its object if its alter id and its security do. -/
theorem legacyDraft_carries_iff {object : List (String × Json)} (h : ValidLegacyObject object)
    {alterId : Option UInt32}
    (halter : (object.lookup "aid").map Json.asU32? = alterId.map some) :
    CarriesValues object (legacyDraft object alterId) ↔
      ((stringAt object "scy").all fun s => (stringAt object "security").all (· == s)) = true := by
  rw [← security_agrees_iff h]
  constructor
  · intro hcarries
    obtain ⟨uuid, alter, security, hoptions, -, -, hall, hsome⟩ := hcarries.options
    rw [legacyDraft, ProtocolOptions.vmess.injEq] at hoptions
    obtain ⟨-, -, rfl⟩ := hoptions
    exact ⟨hall, hsome⟩
  · intro hsecurity
    have htext {key : String} (hkey : key ∈ ["ps", "add", "id"]) :
        object.lookup key = some (.str ((stringAt object key).getD "")) := by
      obtain ⟨v, hv, s, rfl, -⟩ := h.text key hkey
      simp [stringAt, hv, Json.asStr?]
    obtain ⟨port, hport, hpos, hle⟩ := h.port
    obtain ⟨transport, -, htransport⟩ := (legacyEntry_renamed h).transport_eq h
    constructor
    · exact htext (by decide)
    · rw [legacyDraft, hport, Option.getD_some,
        UInt16.toNat_ofNat_of_lt' (by change port < 65536; omega)]
    · exact ⟨rfl, by rw [legacyDraft, htransport]; rfl⟩
    · exact ⟨_, _, _, rfl, htext (by decide), alterId_value halter, hsecurity⟩

/-- **The validator and the reader agree** on an object exactly when the validator rejects it,
or its alter id is a number in range, it has no Reality fields, and names one encryption. -/
theorem legacyVmess_agrees_iff (readers : DocumentReaders) (link : String)
    (object : List (String × Json)) (h : legacyVmessObject readers link = some object) :
    LegacyVmessAgrees readers link object ↔
      (hasInvalidLegacyVmessFields object || legacyVmessReadable object) = true := by
  obtain ⟨fragment, hparse⟩ := parseUri_legacy h
  cases hinvalid : hasInvalidLegacyVmessFields object with
  | true =>
    have hskipped : parseUri readers link = .error .invalidNode := by
      rw [hparse, legacyVmessEntry, hinvalid]
      rfl
    rw [LegacyVmessAgrees, hinvalid]
    simp [isSkipped_of_error hskipped]
  | false =>
    have hvalid := validLegacyObject hinvalid
    have e := legacyEntry_renamed hvalid
    rw [legacyVmessEntry_eq hinvalid] at hparse
    rw [LegacyVmessAgrees, hinvalid, Bool.false_or, legacyVmessReadable]
    simp only [Bool.and_eq_true, Option.isNone_iff_eq_none, forall_const, Bool.false_eq_true,
      false_implies, and_true]
    constructor
    · rintro ⟨draft, hgives, hcarries⟩
      rw [givesNode_iff, hparse] at hgives
      obtain ⟨_, hentry, hgives⟩ := ok_bind.mp hgives
      cases hentry
      obtain ⟨inner, hinner, hgives⟩ := ok_bind.mp hgives
      cases hgives
      obtain ⟨⟨hpbk, hsid⟩, alterId, halter, rfl⟩ := (e.draft_iff hvalid).mp hinner
      refine ⟨⟨⟨?_, hpbk⟩, hsid⟩, (legacyDraft_carries_iff hvalid halter).mp { hcarries with }⟩
      cases haid : object.lookup "aid" with
      | none => rfl
      | some v =>
        cases alterId with
        | none => simp [haid] at halter
        | some n =>
          have hv : v.asU32? = some n := by simpa [haid] using halter
          simp [hv]
    · rintro ⟨⟨⟨haid, hpbk⟩, hsid⟩, hsecurity⟩
      have halter : ∃ alterId, (object.lookup "aid").map Json.asU32? = Option.map some alterId := by
        cases hv : object.lookup "aid" with
        | none => exact ⟨none, rfl⟩
        | some v =>
          rw [hv] at haid
          obtain ⟨n, hn⟩ := Option.isSome_iff_exists.mp haid
          exact ⟨some n, by simp [hn]⟩
      obtain ⟨alterId, halter⟩ := halter
      have hinner := (e.draft_iff hvalid).mpr ⟨⟨hpbk, hsid⟩, alterId, halter, rfl⟩
      have hcarries := (legacyDraft_carries_iff hvalid halter).mpr hsecurity
      refine ⟨_, givesNode_iff.mpr (hparse.trans (ok_bind.mpr ⟨_, rfl, ok_bind.mpr
        ⟨_, hinner, rfl⟩⟩)), { hcarries with }⟩

/-- The payload of a link with the given text for its alter id. -/
def vmessText (aid : String) : String :=
  "\x7b\"v\":\"2\",\"ps\":\"n\",\"add\":\"h\",\"port\":443,\"id\":\"u\",\"aid\":" ++ aid ++
    ",\"net\":\"tcp\"\x7d"

def vmessObject (aid : Json) : List (String × Json) :=
  [("add", .str "h"), ("aid", aid), ("id", .str "u"), ("net", .str "tcp"),
    ("port", .num (.posInt 443)), ("ps", .str "n"), ("v", .str "2")]

/-- A reader of these two payloads. -/
def vmessReaders : DocumentReaders :=
  { noReaders with
    json := fun text =>
      if text = vmessText "0" then some (.obj (vmessObject (.num (.posInt 0))))
      else if text = vmessText "\"0\"" then some (.obj (vmessObject (.str "0")))
      else none }

def numberLink : String :=
  "vmess://eyJ2IjoiMiIsInBzIjoibiIsImFkZCI6ImgiLCJwb3J0Ijo0NDMsImlkIjoidSIsImFpZCI6MCwi" ++
    "bmV0IjoidGNwIn0="

def digitsLink : String :=
  "vmess://eyJ2IjoiMiIsInBzIjoibiIsImFkZCI6ImgiLCJwb3J0Ijo0NDMsImlkIjoidSIsImFpZCI6IjAi" ++
    "LCJuZXQiOiJ0Y3AifQ=="

/-- A link without a fragment carries its payload. -/
theorem legacyVmessText_of {link payload text : String}
    (hsplit : Text.splitOnce "://" link = some ("vmess", payload))
    (hplain : Text.splitOnce "#" payload = none) (hdecoded : decodeBase64 payload = .ok text) :
    legacyVmessText link = some text := by
  have hscheme : eqIgnoreAsciiCase "vmess" "vmess" = true := by decide
  rw [legacyVmessText, hsplit]
  simp only [Option.bind_eq_bind, Option.bind_some, hscheme, if_true, hplain, Option.getD_none,
    hdecoded]
  rfl

theorem numberLink_text : legacyVmessText numberLink = some (vmessText "0") :=
  @legacyVmessText_of _
    ("eyJ2IjoiMiIsInBzIjoibiIsImFkZCI6ImgiLCJwb3J0Ijo0NDMsImlkIjoidSIsImFpZCI6MCwi" ++
      "bmV0IjoidGNwIn0=") _ (by decide +kernel) (by decide +kernel) (by decide +kernel)

theorem digitsLink_text : legacyVmessText digitsLink = some (vmessText "\"0\"") :=
  @legacyVmessText_of _
    ("eyJ2IjoiMiIsInBzIjoibiIsImFkZCI6ImgiLCJwb3J0Ijo0NDMsImlkIjoidSIsImFpZCI6IjAi" ++
      "LCJuZXQiOiJ0Y3AifQ==") _ (by decide +kernel) (by decide +kernel) (by decide +kernel)

/-- With a number for its alter id the link gives a node. -/
theorem legacyVmess_agrees_iff_number :
    LegacyVmessAgrees vmessReaders numberLink (vmessObject (.num (.posInt 0))) := by
  have hobject : legacyVmessObject vmessReaders numberLink =
      some (vmessObject (.num (.posInt 0))) := by
    rw [legacyVmessObject, numberLink_text]
    simp [vmessReaders, Json.asObj?]
  exact (legacyVmess_agrees_iff vmessReaders _ _ hobject).mpr (by decide +kernel)

/-- With decimal digits for it, which the validator accepts, the link is skipped. -/
theorem vmess_alter_id_digits_skipped :
    legacyVmessObject vmessReaders digitsLink = some (vmessObject (.str "0")) ∧
      hasInvalidLegacyVmessFields (vmessObject (.str "0")) = false ∧
      IsSkipped vmessReaders digitsLink ∧
      ¬ LegacyVmessAgrees vmessReaders digitsLink (vmessObject (.str "0")) := by
  have hother : vmessText "\"0\"" ≠ vmessText "0" := by decide
  have hobject : legacyVmessObject vmessReaders digitsLink = some (vmessObject (.str "0")) := by
    rw [legacyVmessObject, digitsLink_text]
    simp [vmessReaders, hother, Json.asObj?]
  have hentry : (legacyVmessEntry (vmessObject (.str "0")) >>= fun entry =>
      draftFromEntry (.obj entry)) = .error .invalidNode := by decide +kernel
  have hskipped : parseUri vmessReaders digitsLink = .error .invalidNode := by
    obtain ⟨fragment, hparse⟩ := parseUri_legacy hobject
    rw [hparse, ← bind_assoc, hentry]
    rfl
  have haccepted : hasInvalidLegacyVmessFields (vmessObject (.str "0")) = false := by
    decide +kernel
  refine ⟨hobject, haccepted, isSkipped_of_error hskipped, fun hagrees => ?_⟩
  obtain ⟨draft, hgives, -⟩ := hagrees.1 haccepted
  rw [givesNode_iff, hskipped] at hgives
  cases hgives

end Veyra
