import Veyra.Subscription.Parser

/-!
# Veyra.Subscription.Checked

What the parser guarantees about every draft it returns, whatever the format
and the nesting of the body: `Checked`.  The JSON fields and the share links
establish it separately, each by the checks of its own path, and
`parseSubscription_checked` carries it to the result.
-/

namespace Veyra

open Check

/-! ## The guarantee -/

/-- The optional secrets that `hasRequiredValues` does not look at are not blank. -/
def ProtocolOptions.secretsNonblank : ProtocolOptions → Bool
  | .hysteria _ obfs _ _ => obfs.all (!Text.blank ·)
  | .ssh _ _ privateKey _ hostKey => privateKey.all (!Text.blank ·) && hostKey.all (!Text.blank ·)
  | _ => true

/-- Valid settings whose Reality key and short id come together. -/
def TlsOptions.wellFormed (t : TlsOptions) : Bool :=
  t.isValid && t.realityPublicKey.isSome == t.realityShortId.isSome

structure ProxyNodeDraft.Checked (d : ProxyNodeDraft) : Prop where
  port : d.port ≠ 0
  options : d.options.isCompatibleWith d.protocol = true
  secrets : d.options.secretsNonblank = true
  tls : d.tls.all (·.wellFormed) = true
  transport : d.transport.all (·.hasValidEarlyData) = true

/-! ## Accessors -/

/-- A required text is there and is kept. -/
theorem required_eq_ok {keep : String → Bool} {value : Option String} {s : String} :
    required keep value = .ok s ↔ value = some s ∧ keep s = true := by
  rw [required, okOr_eq_ok, Option.filter_eq_some_iff]

/-- An optional text is not blank. -/
theorem optionalRawString_nonblank {fields : JsonFields} {key : String} {o : Option String}
    (h : optionalRawString fields key = .ok o) : o.all (!Text.blank ·) = true := by
  obtain ⟨v, -, h⟩ := ok_bind.mp h
  split at h
  · cases h; rfl
  · cases h; rfl
  · split at h
    · cases h
    · next hb =>
      cases h
      simpa using hb
  · cases h

/-- What both spellings parse to is what one of them parses to. -/
theorem resolveBoth_mem {α : Type} [DecidableEq α] {parse : Json → Parsed α}
    {first second : Option Json} {a : α} (h : resolveBoth parse first second = .ok (some a)) :
    ∃ v, parse v = .ok a := by
  cases first with
  | none =>
    cases second with
    | none => cases h
    | some v =>
      obtain ⟨b, hb, hab⟩ := map_eq_ok.mp h
      cases hab
      exact ⟨v, hb⟩
  | some v =>
    cases second with
    | none =>
      obtain ⟨b, hb, hab⟩ := map_eq_ok.mp h
      cases hab
      exact ⟨v, hb⟩
    | some w =>
      obtain ⟨b, hb, h⟩ := ok_bind.mp h
      obtain ⟨c, hc, h⟩ := ok_bind.mp h
      split at h
      · cases h; exact ⟨v, hb⟩
      · cases h

/-! ## TLS settings of an entry -/

/-- An ALPN list that passes the entry checks passes the domain's. -/
theorem validAlpnEntries_valid {seen : List String} {vs : List Json}
    (h : validAlpnEntries seen vs = true) :
    (∀ p ∈ vs.filterMap Json.asStr?, (1 ≤ p.toList.length ∧ p.toList.length ≤ 255) ∧
      ((Text.bytes p).all fun b => 0x21 ≤ b && b ≤ 0x7e) = true ∧ p ∉ seen) ∧
    (vs.filterMap Json.asStr?).Nodup := by
  induction vs generalizing seen with
  | nil => simp
  | cons v vs ih =>
    rw [validAlpnEntries] at h
    cases hs : v.asStr? with
    | none => simp [hs] at h
    | some s =>
      simp only [hs, Bool.and_eq_true, decide_eq_true_eq, Bool.not_eq_true',
        List.contains_eq_mem, decide_eq_false_iff_not] at h
      obtain ⟨⟨⟨hlen, hbytes⟩, hseen⟩, hrest⟩ := h
      have ⟨hall, hnodup⟩ := ih hrest
      rw [List.filterMap_cons_some hs]
      constructor
      · intro p hp
        cases List.mem_cons.mp hp with
        | inl heq => subst heq; exact ⟨hlen, hbytes, hseen⟩
        | inr hp =>
          have ⟨hl, hb, hn⟩ := hall p hp
          exact ⟨hl, hb, fun hm => hn (List.mem_cons_of_mem _ hm)⟩
      · rw [List.nodup_cons]
        exact ⟨fun hm => (hall s hm).2.2 (List.mem_cons_self ..), hnodup⟩

/-- A list of protocols that is taken is short, distinct and of printable characters. -/
theorem tlsAlpn_valid {fields : JsonFields} {alpn : List String} (h : tlsAlpn fields = .ok alpn) :
    alpn.length ≤ 16 ∧
    (∀ p ∈ alpn, (1 ≤ p.toList.length ∧ p.toList.length ≤ 255) ∧
      ((Text.bytes p).all fun b => 0x21 ≤ b && b ≤ 0x7e) = true) ∧ alpn.Nodup := by
  obtain ⟨o, ho, hget⟩ := map_eq_ok.mp h
  cases o with
  | none =>
    simp only [Option.getD_none] at hget
    subst hget
    simp
  | some strings =>
    simp only [Option.getD_some] at hget
    subst hget
    obtain ⟨v, hv⟩ := resolveBoth_mem ho
    split at hv
    · next hvalid =>
      cases hv
      rw [validAlpn] at hvalid
      cases hvs : v.asArr? with
      | none => simp [hvs] at hvalid
      | some vs =>
        simp only [hvs, Bool.and_eq_true, Bool.not_eq_true', Bool.or_eq_false_iff,
          decide_eq_false_iff_not, Nat.not_lt, gt_iff_lt] at hvalid
        obtain ⟨⟨-, hlen⟩, hentries⟩ := hvalid
        have ⟨hall, hnodup⟩ := validAlpnEntries_valid hentries
        have hstrings : alpnStrings v = vs.filterMap Json.asStr? := by simp [alpnStrings, hvs]
        rw [hstrings]
        have hfilter := List.length_filterMap_le Json.asStr? vs
        exact ⟨by omega, fun p hp => ⟨(hall p hp).1, (hall p hp).2.1⟩, hnodup⟩
    · cases hv

/-- A fingerprint that is taken is a known one. -/
theorem tlsFingerprint_known {fields : JsonFields} {o : Option String}
    (h : tlsFingerprint fields = .ok o) : o.all (knownFingerprints.contains ·) = true := by
  obtain ⟨value, -, h⟩ := ok_bind.mp h
  obtain ⟨-, h⟩ := ok_seq.mp h
  split at h
  · next hv =>
    cases h
    cases o with
    | none => rfl
    | some v => simpa [validFingerprint, Json.asStr?] using hv
  · cases h

/-- The two REALITY members come together. -/
theorem tlsRealityFields_paired {fields : JsonFields} {key id : Option String}
    (h : tlsRealityFields fields = .ok (key, id)) : key.isSome = id.isSome := by
  obtain ⟨publicKey, -, h⟩ := ok_bind.mp h
  obtain ⟨shortId, -, h⟩ := ok_bind.mp h
  split at h
  · next heq => cases h; exact heq
  · cases h

/-- TLS options that are taken from an entry are well formed. -/
theorem tlsFromFields_wellFormed {fields : JsonFields} {protocol : ProxyProtocol}
    {tls : Option TlsOptions} (h : tlsFromFields fields protocol = .ok tls) :
    tls.all (·.wellFormed) = true := by
  obtain ⟨-, h⟩ := ok_seq.mp h
  obtain ⟨serverName, -, h⟩ := ok_bind.mp h
  obtain ⟨allowInsecure, -, h⟩ := ok_bind.mp h
  obtain ⟨alpn, halpn, h⟩ := ok_bind.mp h
  obtain ⟨fingerprint, hfingerprint, h⟩ := ok_bind.mp h
  obtain ⟨⟨key, id⟩, hreality, h⟩ := ok_bind.mp h
  obtain ⟨-, h⟩ := ok_seq.mp h
  obtain ⟨-, h⟩ := ok_seq.mp h
  cases h
  split
  · have ⟨hlen, hall, hnodup⟩ := tlsAlpn_valid halpn
    have hknown := tlsFingerprint_known hfingerprint
    have hpaired := tlsRealityFields_paired hreality
    simp only [Option.all_some, TlsOptions.wellFormed, TlsOptions.isValid, Bool.and_eq_true,
      decide_eq_true_eq, beq_iff_eq, List.all_eq_true]
    exact ⟨⟨⟨⟨hlen, fun p hp => ⟨(hall p hp).1, by simpa using (hall p hp).2⟩⟩, hnodup⟩, hknown⟩,
      hpaired⟩
  · rfl

/-! ## Entries -/

/-- A transport that is taken from an entry has valid early data. -/
theorem transportFromFields_valid {fields : JsonFields} {transport : Transport}
    (h : transportFromFields fields = .ok transport) : transport.hasValidEarlyData = true := by
  obtain ⟨⟨maxEarlyData, headerName, specified⟩, -, h⟩ := ok_bind.mp h
  simp only at h
  split at h
  · obtain ⟨hr, h⟩ := ok_seq.mp h
    cases h
    simpa using hr
  · cases h; rfl
  · split at h
    · cases h
    · cases h; rfl

/-- No secret of an entry is blank. -/
theorem optionsFromFields_secrets {fields : JsonFields} {protocol : ProxyProtocol}
    {options : ProtocolOptions} (h : optionsFromFields fields protocol = .ok options) :
    options.secretsNonblank = true := by
  cases protocol with
  | hysteria =>
    obtain ⟨auth, -, h⟩ := ok_bind.mp h
    obtain ⟨authStr, -, h⟩ := ok_bind.mp h
    obtain ⟨value, -, h⟩ := ok_bind.mp h
    obtain ⟨obfs, hobfs, h⟩ := ok_bind.mp h
    obtain ⟨up, -, h⟩ := ok_bind.mp h
    obtain ⟨down, -, h⟩ := ok_bind.mp h
    cases h
    exact optionalRawString_nonblank hobfs
  | ssh =>
    obtain ⟨user, -, h⟩ := ok_bind.mp h
    obtain ⟨username, -, h⟩ := ok_bind.mp h
    obtain ⟨value, -, h⟩ := ok_bind.mp h
    obtain ⟨privateKey, hprivateKey, h⟩ := ok_bind.mp h
    obtain ⟨passphrase, -, h⟩ := ok_bind.mp h
    obtain ⟨hostKey, hhostKey, h⟩ := ok_bind.mp h
    cases h
    simp only [ProtocolOptions.secretsNonblank, optionalRawString_nonblank hprivateKey,
      optionalRawString_nonblank hhostKey, Bool.and_self]
  | http => cases h; rfl
  | trojan | anyTls =>
    obtain ⟨password, -, h⟩ := ok_bind.mp h
    cases h; rfl
  | socks =>
    obtain ⟨version, -, h⟩ := ok_bind.mp h
    cases h; rfl
  | vless | shadowsocks | shadowTls | naive =>
    obtain ⟨x, -, h⟩ := ok_bind.mp h
    obtain ⟨y, -, h⟩ := ok_bind.mp h
    cases h; rfl
  | vmess | snell =>
    obtain ⟨x, -, h⟩ := ok_bind.mp h
    obtain ⟨y, -, h⟩ := ok_bind.mp h
    obtain ⟨z, -, h⟩ := ok_bind.mp h
    cases h; rfl
  | hysteria2 | tuic =>
    obtain ⟨x₁, -, h⟩ := ok_bind.mp h
    obtain ⟨x₂, -, h⟩ := ok_bind.mp h
    obtain ⟨x₃, -, h⟩ := ok_bind.mp h
    obtain ⟨x₄, -, h⟩ := ok_bind.mp h
    obtain ⟨x₅, -, h⟩ := ok_bind.mp h
    cases h; rfl
  | wireGuard =>
    obtain ⟨x₁, -, h⟩ := ok_bind.mp h
    obtain ⟨x₂, -, h⟩ := ok_bind.mp h
    obtain ⟨x₃, -, h⟩ := ok_bind.mp h
    obtain ⟨x₄, -, h⟩ := ok_bind.mp h
    obtain ⟨x₅, -, h⟩ := ok_bind.mp h
    obtain ⟨x₆, -, h⟩ := ok_bind.mp h
    cases h; rfl

/-- Every draft read from fields is checked. -/
theorem draftFromFields_checked {fields : JsonFields} {draft : ProxyNodeDraft}
    (h : draftFromFields fields = .ok draft) : draft.Checked := by
  obtain ⟨protocol, -, h⟩ := ok_bind.mp h
  obtain ⟨name, -, h⟩ := ok_bind.mp h
  obtain ⟨server, -, h⟩ := ok_bind.mp h
  obtain ⟨port, hport, h⟩ := ok_bind.mp h
  obtain ⟨-, h⟩ := ok_seq.mp h
  obtain ⟨smux, -, h⟩ := ok_bind.mp h
  obtain ⟨options, hoptions, h⟩ := ok_bind.mp h
  obtain ⟨hcompatible, h⟩ := ok_seq.mp h
  obtain ⟨transport, htransport, h⟩ := ok_bind.mp h
  obtain ⟨tls, htls, h⟩ := ok_bind.mp h
  obtain ⟨-, h⟩ := ok_seq.mp h
  cases h
  have hpositive : port > 0 := by simpa using (Option.filter_eq_some_iff.mp (okOr_eq_ok.mp hport)).2
  exact
    { port := (UInt16.pos_iff_ne_zero.mp hpositive)
      options := by simpa using hcompatible
      secrets := optionsFromFields_secrets hoptions
      tls := tlsFromFields_wellFormed htls
      transport := by simpa using transportFromFields_valid htransport }

/-- **Spec.**  A draft from an entry passed every check. -/
theorem draftFromEntry_checked {entry : Json} {draft : ProxyNodeDraft}
    (h : draftFromEntry entry = .ok draft) : draft.Checked := by
  obtain ⟨-, h⟩ := ok_seq.mp h
  obtain ⟨-, h⟩ := ok_seq.mp h
  exact draftFromFields_checked h

/-! ## Share links -/

/-- No parameter outside the two flags has a blank value. -/
def Query.NoBlank (query : Query) : Prop :=
  ∀ key value, query.get key = some value → key ∉ ["allowInsecure", "zero_rtt"] →
    Text.blank value = false

/-- A query that passes has blank values for two flags at most. -/
theorem Query.noBlank_of_any {query : Query}
    (h : (query.any fun entry =>
      !(["allowInsecure", "zero_rtt"].contains entry.1) && Text.blank entry.2) = false) :
    query.NoBlank := by
  intro key value hget hkey
  have hmem : (key, value) ∈ query := by
    unfold Query.get at hget
    obtain ⟨l₁, l₂, heq, -⟩ := List.lookup_eq_some_iff.mp hget
    simp [heq]
  have hentry := List.any_eq_false.mp h (key, value) hmem
  simp only [Bool.and_eq_true, Bool.not_eq_true', not_and, Bool.not_eq_true] at hentry
  exact hentry (by simpa using hkey)

theorem Query.NoBlank.all {query : Query} (h : query.NoBlank) {key : String}
    (hkey : key ∉ ["allowInsecure", "zero_rtt"]) :
    (query.get key).all (!Text.blank ·) = true := by
  cases hget : query.get key with
  | none => rfl
  | some value => simp [h key value hget hkey]

/-- No secret of a link is blank. -/
theorem parseUriOptions_secrets {protocol : ProxyProtocol} {scheme raw : String} {query : Query}
    {options : ProtocolOptions} (hq : query.NoBlank)
    (h : parseUriOptions protocol scheme raw query = .ok options) :
    options.secretsNonblank = true := by
  cases protocol with
  | hysteria =>
    obtain ⟨auth, -, h⟩ := ok_bind.mp h
    obtain ⟨up, -, h⟩ := ok_bind.mp h
    obtain ⟨down, -, h⟩ := ok_bind.mp h
    cases h
    exact hq.all (by decide)
  | ssh =>
    obtain ⟨user, -, h⟩ := ok_bind.mp h
    cases h
    have hprivate := @Query.NoBlank.all query hq "private_key" (by decide)
    have hhost := @Query.NoBlank.all query hq "host_key" (by decide)
    simp only [ProtocolOptions.secretsNonblank, hprivate, hhost, Bool.and_self]
  | socks | http => cases h; rfl
  | vmess | vless | trojan | hysteria2 | anyTls =>
    obtain ⟨x, -, h⟩ := ok_bind.mp h
    cases h; rfl
  | shadowsocks | shadowTls | snell =>
    obtain ⟨x, -, h⟩ := ok_bind.mp h
    obtain ⟨y, -, h⟩ := ok_bind.mp h
    cases h; rfl
  | naive =>
    obtain ⟨x, -, h⟩ := ok_bind.mp h
    obtain ⟨y, -, h⟩ := ok_bind.mp h
    obtain ⟨z, -, h⟩ := ok_bind.mp h
    cases h; rfl
  | tuic =>
    obtain ⟨x₁, -, h⟩ := ok_bind.mp h
    obtain ⟨x₂, -, h⟩ := ok_bind.mp h
    obtain ⟨x₃, -, h⟩ := ok_bind.mp h
    obtain ⟨x₄, -, h⟩ := ok_bind.mp h
    cases h; rfl
  | wireGuard =>
    obtain ⟨x₁, -, h⟩ := ok_bind.mp h
    obtain ⟨x₂, -, h⟩ := ok_bind.mp h
    obtain ⟨x₃, -, h⟩ := ok_bind.mp h
    obtain ⟨x₄, -, h⟩ := ok_bind.mp h
    obtain ⟨x₅, -, h⟩ := ok_bind.mp h
    cases h; rfl

/-- TLS options of a link are well formed if its REALITY members come together. -/
theorem uriTlsOptions_wellFormed (serverName : Option String) (allowInsecure : Bool)
    {key id : Option String} (h : key.isSome = id.isSome) :
    (uriTlsOptions serverName allowInsecure key id).wellFormed = true := by
  simp [TlsOptions.wellFormed, TlsOptions.isValid, uriTlsOptions, h]

/-- TLS options that are taken from a link are well formed. -/
theorem parseUriTls_wellFormed {protocol : ProxyProtocol} {query : Query}
    {tls : Option TlsOptions} (h : parseUriTls protocol query = .ok tls) :
    tls.all (·.wellFormed) = true := by
  obtain ⟨-, h⟩ := ok_seq.mp h
  obtain ⟨-, h⟩ := ok_seq.mp h
  obtain ⟨allowInsecure, -, h⟩ := ok_bind.mp h
  obtain ⟨-, h⟩ := ok_seq.mp h
  split at h
  · cases h
    exact uriTlsOptions_wellFormed _ _ rfl
  · obtain ⟨publicKey, -, h⟩ := ok_bind.mp h
    obtain ⟨shortId, -, h⟩ := ok_bind.mp h
    cases h
    exact uriTlsOptions_wellFormed _ _ rfl
  · split at h
    · cases h
    · cases h; rfl
  · cases h
  · split at h
    · cases h
      exact uriTlsOptions_wellFormed _ _ rfl
    · split at h
      · cases h
      · cases h; rfl

/-- A transport that is taken from a link has valid early data. -/
theorem parseUriTransport_valid {protocol : ProxyProtocol} {query : Query} {transport : Transport}
    (h : parseUriTransport protocol query = .ok transport) :
    transport.hasValidEarlyData = true := by
  obtain ⟨-, h⟩ := ok_seq.mp h
  split at h
  all_goals first | cases h | (split at h <;> cases h)
  all_goals rfl

/-- A port of a link is not zero. -/
theorem splitHostPort_port {input server : String} {port : UInt16}
    (h : splitHostPort input = .ok (server, port)) : port ≠ 0 := by
  obtain ⟨⟨host, portText⟩, -, h⟩ := ok_bind.mp h
  obtain ⟨value, -, h⟩ := ok_bind.mp h
  obtain ⟨hr, h⟩ := ok_seq.mp h
  cases h
  simp only [reject_eq_ok, Bool.or_eq_false_iff, decide_eq_false_iff_not] at hr
  exact hr.2

/-- A draft from a plain link passed every check. -/
theorem parsePlainUri_checked {scheme remainder : String} {draft : ProxyNodeDraft}
    (h : parsePlainUri scheme remainder = .ok draft) : draft.Checked := by
  obtain ⟨protocol, -, h⟩ := ok_bind.mp h
  obtain ⟨⟨server, port⟩, hport, h⟩ := ok_bind.mp h
  obtain ⟨query, -, h⟩ := ok_bind.mp h
  obtain ⟨-, h⟩ := ok_seq.mp h
  obtain ⟨hblank, h⟩ := ok_seq.mp h
  obtain ⟨options, hoptions, h⟩ := ok_bind.mp h
  obtain ⟨hcompatible, h⟩ := ok_seq.mp h
  obtain ⟨tls, htls, h⟩ := ok_bind.mp h
  obtain ⟨transport, htransport, h⟩ := ok_bind.mp h
  cases h
  have hquery : query.NoBlank := Query.noBlank_of_any (reject_eq_ok.mp hblank)
  exact
    { port := splitHostPort_port hport
      options := by simpa using hcompatible
      secrets := parseUriOptions_secrets hquery hoptions
      tls := parseUriTls_wellFormed htls
      transport := by simpa using parseUriTransport_valid htransport }

/-- The fragment of a legacy link only renames the draft. -/
theorem parseLegacyVmess_checked {readers : DocumentReaders} {remainder : String}
    {draft : ProxyNodeDraft} (h : parseLegacyVmess readers remainder = .ok draft) :
    draft.Checked := by
  obtain ⟨json, -, h⟩ := ok_bind.mp h
  obtain ⟨value, -, h⟩ := ok_bind.mp h
  obtain ⟨object, -, h⟩ := ok_bind.mp h
  obtain ⟨entry, -, h⟩ := ok_bind.mp h
  obtain ⟨inner, hinner, h⟩ := ok_bind.mp h
  have hchecked := draftFromEntry_checked hinner
  cases h
  exact { hchecked with }

/-- **Spec.**  A draft from a link passed every check. -/
theorem parseUri_checked {readers : DocumentReaders} {uri : String} {draft : ProxyNodeDraft}
    (h : parseUri readers uri = .ok draft) : draft.Checked := by
  obtain ⟨⟨scheme, remainder⟩, -, h⟩ := ok_bind.mp h
  simp only at h
  split at h
  · exact parseLegacyVmess_checked h
  · exact parsePlainUri_checked h

/-! ## Whole bodies -/

/-- All nodes of a result are checked. -/
def ParseResult.Checked (r : ParseResult) : Prop := ∀ d ∈ r.nodes, d.Checked

/-- What is collected was checked one by one. -/
theorem collectParsed_checked {results : List (Parsed ProxyNodeDraft)}
    (h : ∀ d, .ok d ∈ results → d.Checked) : ∀ d ∈ (collectParsed results).1, d.Checked := by
  induction results with
  | nil => simp [collectParsed]
  | cons r rest ih =>
    have hrest := ih fun d hd => h d (List.mem_cons_of_mem _ hd)
    cases r with
    | error reason => simpa [collectParsed] using hrest
    | ok draft =>
      intro d hd
      cases List.mem_cons.mp hd with
      | inl heq => subst heq; exact h d (List.mem_cons_self ..)
      | inr hd => exact hrest d hd

/-- A draft from a candidate passed every check. -/
theorem parseCandidate_checked {context : JsonCandidateContext} {candidate : Json}
    {draft : ProxyNodeDraft} (h : parseCandidate context candidate = some (.ok draft)) :
    draft.Checked := by
  unfold parseCandidate at h
  split at h
  · cases h
  · have h := Option.some.inj h
    split at h
    · exact draftFromEntry_checked h
    · obtain ⟨members, -, h⟩ := ok_bind.mp h
      exact draftFromEntry_checked h

/-- Each draft of a list of candidates was checked. -/
theorem parseJsonCandidates_checked (candidates : List Json) (context : JsonCandidateContext) :
    ∀ d ∈ (parseJsonCandidates candidates context).1, d.Checked := by
  refine collectParsed_checked fun d hd => ?_
  obtain ⟨candidate, -, hparse⟩ := List.mem_filterMap.mp hd
  exact parseCandidate_checked hparse

/-- The drafts of a JSON document were checked. -/
theorem parseJson_checked {readers : DocumentReaders} {body : String} {result : ParseResult}
    (h : parseJson readers body = .ok result) : result.Checked := by
  obtain ⟨document, -, h⟩ := ok_bind.mp h
  obtain ⟨⟨candidates, context⟩, -, h⟩ := ok_bind.mp h
  obtain ⟨vs, -, h⟩ := ok_bind.mp h
  cases h
  exact parseJsonCandidates_checked vs context

/-- The drafts of a YAML document were checked. -/
theorem parseClashYaml_checked {readers : DocumentReaders} {body : String} {result : ParseResult}
    (h : parseClashYaml readers body = .ok result) : result.Checked := by
  obtain ⟨document, -, h⟩ := ok_bind.mp h
  obtain ⟨vs, -, h⟩ := ok_bind.mp h
  cases h
  exact parseJsonCandidates_checked vs .proxies

/-- The drafts of a list of links were checked. -/
theorem parseUriList_checked {readers : DocumentReaders} {body : String} {result : ParseResult}
    (h : parseUriList readers body = some result) : result.Checked := by
  unfold parseUriList at h
  simp only at h
  split at h
  · cases h
  · cases h
    refine collectParsed_checked fun d hd => ?_
    obtain ⟨line, -, hparse⟩ := List.mem_map.mp hd
    exact parseUri_checked hparse

/-- The drafts of a body in any of these formats were checked. -/
theorem parseBody_checked {readers : DocumentReaders} {body : String} {result : ParseResult}
    (h : parseBody readers body = some (.ok result)) : result.Checked := by
  unfold parseBody at h
  split at h
  · cases h
  · split at h
    · split at h
      · next hjson => cases h; exact parseJson_checked hjson
      · exact parseClashYaml_checked (Option.some.inj h)
    · split at h
      · next hyaml =>
        cases h
        split at hyaml
        · cases hclash : parseClashYaml readers body with
          | error e => simp [hclash, Except.toOption] at hyaml
          | ok r =>
            simp only [hclash, Except.toOption, Option.some.injEq] at hyaml
            subst hyaml
            exact parseClashYaml_checked hclash
        · cases hyaml
      · obtain ⟨r, hlist, hr⟩ := Option.map_eq_some_iff.mp h
        cases hr
        exact parseUriList_checked hlist

/-- Taking off a base64 layer changes the format of the result, not its nodes. -/
theorem parseWithDepth_checked {readers : DocumentReaders} {layers : Nat} {body : String}
    {result : ParseResult} (h : parseWithDepth readers layers body = .ok result) :
    result.Checked := by
  induction layers generalizing body result with
  | zero =>
    rw [parseWithDepth] at h
    cases hbody : parseBody readers (stripBody body) with
    | none => simp [hbody] at h
    | some r =>
      simp only [hbody, Option.getD_some] at h
      subst h
      exact parseBody_checked hbody
  | succ layers ih =>
    rw [parseWithDepth] at h
    split at h
    · next r hbody =>
      subst h
      exact parseBody_checked hbody
    · obtain ⟨decoded, -, h⟩ := ok_bind.mp h
      obtain ⟨inner, hinner, h⟩ := ok_bind.mp h
      have hchecked : inner.Checked := ih hinner
      cases h
      exact hchecked

/-- **Spec.**  The drafts of a body under any layers of base64 were checked. -/
theorem parseSubscription_checked {readers : DocumentReaders} {body : String}
    {result : ParseResult} (h : parseSubscription readers body = .ok result) : result.Checked :=
  parseWithDepth_checked h

end Veyra
