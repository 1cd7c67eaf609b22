import Veyra.Subscription.Checked
import Veyra.Subscription.Normalize

/-!
# Veyra.Subscription.ValidDrafts

Which bodies parse to nodes that `normalize_nodes` accepts.  Entries of a JSON or YAML
document are checked for a name and a server; a share link is not, so that a blank fragment
or an empty pair of brackets gets through and fails the whole batch later.
-/

namespace Veyra

open Check

/-! ## Where the results come from -/

/-- The lines of a body that are read as share links. -/
def uriLines (body : String) : List String :=
  ((Text.lines body).map Text.trim).filter fun line => line != "" && !Text.startsWith line "#"

/-- The body is read as a list of share links. -/
def readsAsLinks (readers : DocumentReaders) (body : String) : Bool :=
  body != "" && !Text.startsWith body "\x7b" &&
    !(looksLikeYaml body && (parseClashYaml readers body).isOk) &&
    (uriLines body).any (Text.contains · "://")

/-- The share links of a body. -/
def linksOf (readers : DocumentReaders) (body : String) : List String :=
  if readsAsLinks readers body then uriLines body else []

/-- The text under a base64 layer, of a body that has none of the other formats. -/
def unwrapped (readers : DocumentReaders) (body : String) : Option String :=
  match parseBody readers body with
  | some _ => none
  | none => (decodeBase64 body).toOption

/-- The share links of a body, under the base64 layers that may still be taken off. -/
def linkLines (readers : DocumentReaders) : Nat → String → List String
  | 0, body => linksOf readers (stripBody body)
  | layers + 1, body =>
    match unwrapped readers (stripBody body) with
    | some decoded => linkLines readers layers decoded
    | none => linksOf readers (stripBody body)

/-- Results that were collected from the entries of a document. -/
def FromEntries (result : ParseResult) : Prop :=
  ∃ candidates context, (result.nodes, result.skipped) = parseJsonCandidates candidates context

/-- Results that were collected from share links. -/
def FromLinks (readers : DocumentReaders) (links : List String) (result : ParseResult) : Prop :=
  (result.nodes, result.skipped) = collectParsed (links.map (parseUri readers))

theorem parseJson_source {readers : DocumentReaders} {body : String} {result : ParseResult}
    (h : parseJson readers body = .ok result) : FromEntries result := by
  obtain ⟨document, -, h⟩ := ok_bind.mp h
  obtain ⟨⟨candidates, context⟩, -, h⟩ := ok_bind.mp h
  obtain ⟨vs, -, h⟩ := ok_bind.mp h
  cases h
  exact ⟨vs, context, rfl⟩

theorem parseClashYaml_source {readers : DocumentReaders} {body : String} {result : ParseResult}
    (h : parseClashYaml readers body = .ok result) : FromEntries result := by
  obtain ⟨document, -, h⟩ := ok_bind.mp h
  obtain ⟨vs, -, h⟩ := ok_bind.mp h
  cases h
  exact ⟨vs, .proxies, rfl⟩

theorem parseUriList_eq (readers : DocumentReaders) (body : String) :
    parseUriList readers body =
      if (uriLines body).any (Text.contains · "://") then
        some { format := .uriList
               nodes := (collectParsed ((uriLines body).map (parseUri readers))).1
               skipped := (collectParsed ((uriLines body).map (parseUri readers))).2 }
      else none := by
  have hempty : (uriLines body).any (Text.contains · "://") = true →
      (uriLines body).isEmpty = false := by
    intro hany
    cases hlines : uriLines body with
    | nil => simp [hlines] at hany
    | cons line rest => rfl
  let links : ParseResult :=
    { format := .uriList
      nodes := (collectParsed ((uriLines body).map (parseUri readers))).1
      skipped := (collectParsed ((uriLines body).map (parseUri readers))).2 }
  change (if (uriLines body).isEmpty || !(uriLines body).any (Text.contains · "://") then none
    else some links) = _
  cases hany : (uriLines body).any (Text.contains · "://") with
  | true =>
    rw [hempty hany]
    rfl
  | false => simp only [Bool.not_false, Bool.or_true, if_true, Bool.false_eq_true, if_false]

/-- **Spec.**  The body is a document, or a list of share links. -/
theorem parseBody_source {readers : DocumentReaders} {body : String} {result : ParseResult}
    (h : parseBody readers body = some (.ok result)) :
    (readsAsLinks readers body = false ∧ FromEntries result) ∨
    (readsAsLinks readers body = true ∧ FromLinks readers (uriLines body) result) := by
  rw [parseBody] at h
  by_cases hempty : body = ""
  · rw [if_pos hempty] at h
    cases h
  · rw [if_neg hempty] at h
    cases hobject : Text.startsWith body "\x7b" with
    | true =>
      rw [hobject, if_pos rfl] at h
      have hentries : FromEntries result := by
        cases hjson : parseJson readers body with
        | ok r =>
          rw [hjson] at h
          cases h
          exact parseJson_source hjson
        | error e =>
          rw [hjson] at h
          exact parseClashYaml_source (Option.some.inj h)
      exact .inl ⟨by simp [readsAsLinks, hobject], hentries⟩
    | false =>
      simp only [hobject, Bool.false_eq_true, if_false] at h
      cases hyaml : (if looksLikeYaml body then (parseClashYaml readers body).toOption else none) with
      | some r =>
        rw [hyaml] at h
        cases h
        split at hyaml
        · next hlooks =>
          cases hclash : parseClashYaml readers body with
          | error e => simp [hclash, Except.toOption] at hyaml
          | ok r =>
            simp only [hclash, Except.toOption, Option.some.injEq] at hyaml
            subst hyaml
            exact .inl ⟨by simp [readsAsLinks, hlooks, hclash, Except.isOk, Except.toBool],
              parseClashYaml_source hclash⟩
        · cases hyaml
      | none =>
        rw [hyaml] at h
        have hnone : (looksLikeYaml body && (parseClashYaml readers body).isOk) = false := by
          cases hlooks : looksLikeYaml body with
          | false => rfl
          | true =>
            rw [hlooks, if_pos rfl] at hyaml
            cases hclash : parseClashYaml readers body with
            | error e => rfl
            | ok r => simp [hclash, Except.toOption] at hyaml
        obtain ⟨r, hlist, hr⟩ := Option.map_eq_some_iff.mp h
        cases hr
        rw [parseUriList_eq] at hlist
        split at hlist
        · next hany =>
          cases hlist
          have hreads : readsAsLinks readers body = true := by
            simp only [readsAsLinks, hobject, hnone, Bool.not_false, Bool.and_true,
              Bool.and_eq_true, bne_iff_ne]
            exact ⟨hempty, hany⟩
          exact .inr ⟨hreads, rfl⟩
        · cases hlist

theorem parseBody_links {readers : DocumentReaders} {body : String} {result : ParseResult}
    (h : parseBody readers body = some (.ok result)) :
    (linksOf readers body = [] ∧ FromEntries result) ∨
    FromLinks readers (linksOf readers body) result := by
  obtain ⟨hreads, hsource⟩ | ⟨hreads, hsource⟩ := parseBody_source h
  · exact .inl ⟨by rw [linksOf, hreads]; rfl, hsource⟩
  · rw [linksOf, if_pos hreads]
    exact .inr hsource

/-- **Spec.**  The nodes of a result come from a document, or from the share links of the
body. -/
theorem parseWithDepth_source {readers : DocumentReaders} {layers : Nat} {body : String}
    {result : ParseResult} (h : parseWithDepth readers layers body = .ok result) :
    (linkLines readers layers body = [] ∧ FromEntries result) ∨
    FromLinks readers (linkLines readers layers body) result := by
  induction layers generalizing body result with
  | zero =>
    rw [parseWithDepth] at h
    cases hbody : parseBody readers (stripBody body) with
    | none => simp [hbody] at h
    | some r =>
      simp only [hbody, Option.getD_some] at h
      subst h
      exact parseBody_links hbody
  | succ layers ih =>
    rw [parseWithDepth] at h
    rw [linkLines]
    cases hbody : parseBody readers (stripBody body) with
    | some r =>
      simp only [hbody] at h
      subst h
      have hwhole : unwrapped readers (stripBody body) = none := by rw [unwrapped, hbody]
      rw [hwhole]
      exact parseBody_links hbody
    | none =>
      simp only [hbody] at h
      obtain ⟨decoded, hdecoded, h⟩ := ok_bind.mp h
      obtain ⟨inner, hinner, h⟩ := ok_bind.mp h
      cases h
      have hlayer : unwrapped readers (stripBody body) = some decoded := by
        rw [unwrapped, hbody, hdecoded]
        rfl
      have hsource := ih hinner
      rw [hlayer]
      exact hsource

/-! ## Blank names and servers -/

/-- A draft that the domain accepts under any provider, with a name and a server. -/
structure ProxyNodeDraft.Valid (d : ProxyNodeDraft) : Prop where
  name : Text.blank d.name = false
  server : Text.blank d.server = false
  port : d.port ≠ 0
  options : d.options.isCompatibleWith d.protocol = true
  tls : d.tls.all (·.isValid) = true
  transport : d.transport.all (·.hasValidEarlyData) = true

/-- Only the name and the server are not checked on every path. -/
theorem ProxyNodeDraft.Checked.valid_iff {d : ProxyNodeDraft} (h : d.Checked) :
    d.Valid ↔ Text.blank d.name = false ∧ Text.blank d.server = false := by
  constructor
  · exact fun hd => ⟨hd.name, hd.server⟩
  · intro ⟨hname, hserver⟩
    have htls : d.tls.all (·.isValid) = true := by
      cases ht : d.tls with
      | none => rfl
      | some tls =>
        have hwell := h.tls
        simp only [ht, Option.all_some, TlsOptions.wellFormed, Bool.and_eq_true] at hwell
        simpa using hwell.1
    exact ⟨hname, hserver, h.port, h.options, htls, h.transport⟩

/-- The fragment of a share link, after its scheme. -/
def linkFragment (remainder : String) : String :=
  ((Text.splitOnce "#" remainder).getD (remainder, "")).2

/-- The host and port of a share link, after its scheme. -/
def linkHostPort (remainder : String) : String :=
  let beforeFragment := ((Text.splitOnce "#" remainder).getD (remainder, "")).1
  let authority := ((Text.splitOnce "?" beforeFragment).getD (beforeFragment, "")).1
  ((Text.rsplitOnce '@' authority).getD ("", authority)).2

/-- The host of a share link, after its scheme, without brackets. -/
def linkHost (remainder : String) : String :=
  let host := ((Text.rsplitOnce ':' (linkHostPort remainder)).getD (linkHostPort remainder, "")).1
  let bracket (c : Char) : Bool := c = '[' || c = ']'
  String.ofList ((host.toList.dropWhile bracket).reverse.dropWhile bracket).reverse

/-- A share link whose fragment decodes to white space, or, in all but the legacy links,
whose host is blank. -/
def blankLink (link : String) : Bool :=
  match Text.splitOnce "://" link with
  | none => false
  | some (scheme, remainder) =>
    (linkFragment remainder != "" && Text.blank (percentDecode (linkFragment remainder))) ||
      (!eqIgnoreAsciiCase scheme "vmess" && Text.blank (linkHost remainder))

theorem requiredNonblank_ok {value : Option String} {s : String}
    (h : requiredNonblank value = .ok s) : Text.blank s = false := by
  have := (required_eq_ok.mp h).2
  simpa using this

/-- The fields of an entry give a name and a server. -/
theorem draftFromFields_named {fields : JsonFields} {draft : ProxyNodeDraft}
    (h : draftFromFields fields = .ok draft) :
    Text.blank draft.name = false ∧ Text.blank draft.server = false := by
  obtain ⟨protocol, -, h⟩ := ok_bind.mp h
  obtain ⟨name, hname, h⟩ := ok_bind.mp h
  obtain ⟨server, hserver, h⟩ := ok_bind.mp h
  obtain ⟨port, -, h⟩ := ok_bind.mp h
  obtain ⟨-, h⟩ := ok_seq.mp h
  obtain ⟨smux, -, h⟩ := ok_bind.mp h
  obtain ⟨options, -, h⟩ := ok_bind.mp h
  obtain ⟨-, h⟩ := ok_seq.mp h
  obtain ⟨transport, -, h⟩ := ok_bind.mp h
  obtain ⟨tls, -, h⟩ := ok_bind.mp h
  obtain ⟨-, h⟩ := ok_seq.mp h
  cases h
  exact ⟨requiredNonblank_ok hname, requiredNonblank_ok hserver⟩

theorem draftFromEntry_named {entry : Json} {draft : ProxyNodeDraft}
    (h : draftFromEntry entry = .ok draft) :
    Text.blank draft.name = false ∧ Text.blank draft.server = false := by
  obtain ⟨-, h⟩ := ok_seq.mp h
  obtain ⟨-, h⟩ := ok_seq.mp h
  exact draftFromFields_named h

theorem parseCandidate_named {context : JsonCandidateContext} {candidate : Json}
    {draft : ProxyNodeDraft} (h : parseCandidate context candidate = some (.ok draft)) :
    Text.blank draft.name = false ∧ Text.blank draft.server = false := by
  unfold parseCandidate at h
  split at h
  · cases h
  · have h := Option.some.inj h
    split at h
    · exact draftFromEntry_named h
    · obtain ⟨members, -, h⟩ := ok_bind.mp h
      exact draftFromEntry_named h

theorem lowerChar_of_white {c : Char} (h : Text.isWhite c = true) : Text.lowerChar c = c := by
  rw [Text.lowerChar, if_neg]
  intro hupper
  simp only [Bool.and_eq_true, decide_eq_true_eq, Char.le_def, UInt32.le_iff_toNat_le] at hupper
  have hlow : 65 ≤ c.toNat := hupper.1
  have hhigh : c.toNat ≤ 90 := hupper.2
  simp only [Text.isWhite, Bool.or_eq_true, Bool.and_eq_true, decide_eq_true_eq,
    beq_iff_eq] at h
  omega

/-- No scheme is blank. -/
theorem protocolFromName_blank {scheme : String} (h : Text.blank scheme = true) :
    protocolFromName scheme = none := by
  have hlower : Text.blank (Text.lower scheme) = true := by
    simp only [Text.blank, Text.lower, String.toList_ofList, List.all_map, List.all_eq_true,
      Function.comp_apply] at h ⊢
    intro c hc
    rw [lowerChar_of_white (h c hc)]
    exact h c hc
  rw [protocolFromName]
  generalize Text.lower scheme = key at hlower
  split
  all_goals first
    | rfl
    | exact absurd hlower (by decide)

/-- The default name of a link starts with its scheme. -/
theorem defaultName_nonblank {scheme server : String} {protocol : ProxyProtocol}
    (h : protocolFromName scheme = some protocol) :
    Text.blank (String.ofList (scheme.toList ++ ' ' :: server.toList)) = false := by
  rw [Bool.eq_false_iff]
  intro hblank
  rw [Text.blank, String.toList_ofList, List.all_append, Bool.and_eq_true] at hblank
  rw [protocolFromName_blank hblank.1] at h
  cases h

theorem splitHostPort_server {input server : String} {port : UInt16}
    (h : splitHostPort input = .ok (server, port)) :
    ∃ host, Text.rsplitOnce ':' input = some host ∧ server = String.ofList
      ((host.1.toList.dropWhile fun c => c = '[' || c = ']').reverse.dropWhile
        fun c => c = '[' || c = ']').reverse := by
  obtain ⟨host, hhost, h⟩ := ok_bind.mp h
  obtain ⟨parsed, -, h⟩ := ok_bind.mp h
  obtain ⟨-, h⟩ := ok_seq.mp h
  cases h
  exact ⟨host, okOr_eq_ok.mp hhost, rfl⟩

/-- An accepted link is named by its fragment, and its server is its host. -/
theorem parsePlainUri_named {scheme remainder : String} {draft : ProxyNodeDraft}
    (h : parsePlainUri scheme remainder = .ok draft) :
    Text.blank draft.name =
      (linkFragment remainder != "" && Text.blank (percentDecode (linkFragment remainder))) ∧
    draft.server = linkHost remainder := by
  obtain ⟨protocol, hprotocol, h⟩ := ok_bind.mp h
  obtain ⟨⟨server, port⟩, hport, h⟩ := ok_bind.mp h
  obtain ⟨query, -, h⟩ := ok_bind.mp h
  obtain ⟨-, h⟩ := ok_seq.mp h
  obtain ⟨-, h⟩ := ok_seq.mp h
  obtain ⟨options, -, h⟩ := ok_bind.mp h
  obtain ⟨-, h⟩ := ok_seq.mp h
  obtain ⟨tls, -, h⟩ := ok_bind.mp h
  obtain ⟨transport, -, h⟩ := ok_bind.mp h
  cases h
  constructor
  · show Text.blank (if linkFragment remainder = "" then _ else percentDecode _) = _
    by_cases hfragment : linkFragment remainder = ""
    · rw [if_pos hfragment, defaultName_nonblank (okOr_eq_ok.mp hprotocol), hfragment]
      rfl
    · have hne : (linkFragment remainder != "") = true := by simpa using hfragment
      rw [if_neg hfragment, hne, Bool.true_and]
      rfl
  · obtain ⟨host, hhost, hserver⟩ := splitHostPort_server hport
    have hhost : Text.rsplitOnce ':' (linkHostPort remainder) = some host := by
      unfold linkHostPort Option.getD
      exact hhost
    simp only [hserver, linkHost, hhost, Option.getD_some]

/-- The draft of a legacy link is named by its fragment, if it has one. -/
theorem parseLegacyVmess_named {readers : DocumentReaders} {remainder : String}
    {draft : ProxyNodeDraft} (h : parseLegacyVmess readers remainder = .ok draft) :
    Text.blank draft.name =
      (linkFragment remainder != "" && Text.blank (percentDecode (linkFragment remainder))) ∧
    Text.blank draft.server = false := by
  obtain ⟨json, -, h⟩ := ok_bind.mp h
  obtain ⟨value, -, h⟩ := ok_bind.mp h
  obtain ⟨object, -, h⟩ := ok_bind.mp h
  obtain ⟨entry, -, h⟩ := ok_bind.mp h
  obtain ⟨inner, hinner, h⟩ := ok_bind.mp h
  obtain ⟨hname, hserver⟩ := draftFromEntry_named hinner
  cases h
  refine ⟨?_, hserver⟩
  show Text.blank (if linkFragment remainder = "" then _ else percentDecode _) = _
  by_cases hfragment : linkFragment remainder = ""
  · rw [if_pos hfragment, hname, hfragment]
    rfl
  · have hne : (linkFragment remainder != "") = true := by simpa using hfragment
    rw [if_neg hfragment, hne, Bool.true_and]
    rfl

/-- **Spec.**  The draft of an accepted link is valid unless the link is blank. -/
theorem parseUri_valid_iff {readers : DocumentReaders} {link : String} {draft : ProxyNodeDraft}
    (h : parseUri readers link = .ok draft) : draft.Valid ↔ blankLink link = false := by
  rw [(parseUri_checked h).valid_iff]
  obtain ⟨⟨scheme, remainder⟩, hsplit, h⟩ := ok_bind.mp h
  rw [blankLink, okOr_eq_ok.mp hsplit]
  simp only at h ⊢
  split at h
  · next hvmess =>
    obtain ⟨hname, hserver⟩ := parseLegacyVmess_named h
    rw [hname, hserver, hvmess]
    simp
  · next hplain =>
    obtain ⟨hname, hserver⟩ := parsePlainUri_named h
    have hscheme : eqIgnoreAsciiCase scheme "vmess" = false := by simpa using hplain
    rw [hname, hserver, hscheme, Bool.or_eq_false_iff]
    simp

/-! ## Whole bodies -/

theorem mem_collectParsed {results : List (Parsed ProxyNodeDraft)} {d : ProxyNodeDraft} :
    d ∈ (collectParsed results).1 ↔ .ok d ∈ results := by
  induction results with
  | nil => simp [collectParsed]
  | cons r rest ih =>
    cases r with
    | error reason => simp [collectParsed, ih]
    | ok draft => simp [collectParsed, ih]

/-- A batch is rejected for an invalid node only if it has one. -/
theorem invalidNode_of_normalizeDrafts {text : JsonText} {p : ProviderId}
    {drafts : List ProxyNodeDraft} : ∀ {seen : List NodeId},
      normalizeDrafts text p seen drafts = .error .invalidNode →
      ∃ d ∈ drafts, Text.blank d.name = true ∨ Text.blank d.server = true ∨ d.port = 0 := by
  induction drafts with
  | nil =>
    intro seen h
    cases h
  | cons d ds ih =>
    intro seen h
    rw [normalizeDrafts] at h
    obtain hbad | ⟨-, -, h⟩ := error_bind.mp h
    · obtain ⟨hbad, -⟩ := reject_eq_error.mp hbad
      simp only [Bool.or_eq_true, decide_eq_true_eq, or_assoc] at hbad
      exact ⟨d, List.mem_cons_self, hbad⟩
    · obtain hseen | ⟨-, -, h⟩ := error_bind.mp h
      · obtain ⟨-, hne⟩ := reject_eq_error.mp hseen
        cases hne
      · obtain hrest | ⟨rest, -, h⟩ := error_bind.mp h
        · obtain ⟨other, hother, hbad⟩ := ih hrest
          exact ⟨other, List.mem_cons_of_mem d hother, hbad⟩
        · cases h

/-- **Every parsed node is a valid node** exactly when no accepted share link of the body
decodes to a blank name or has a blank host; then no batch of these nodes is rejected for
an invalid one. -/
theorem parsed_drafts_valid_iff (readers : DocumentReaders) (body : String) (result : ParseResult)
    (h : parseSubscription readers body = .ok result) :
    ((∀ d ∈ result.nodes, d.Valid) ∧
        ∀ text p, normalizeNodes text p result.nodes ≠ .error .invalidNode) ↔
      ∀ link ∈ linkLines readers maxBase64Depth (Text.trim body),
        (parseUri readers link).isOk = true → blankLink link = false := by
  have hvalid : (∀ d ∈ result.nodes, d.Valid) ↔
      ∀ link ∈ linkLines readers maxBase64Depth (Text.trim body),
        (parseUri readers link).isOk = true → blankLink link = false := by
    obtain ⟨hnone, candidates, context, hentries⟩ | hlinks := parseWithDepth_source h
    · rw [hnone]
      simp only [List.not_mem_nil, false_implies, implies_true, iff_true]
      intro d hd
      have hnodes := congrArg Prod.fst hentries
      simp only at hnodes
      have hchecked := parseSubscription_checked h d hd
      rw [hnodes, parseJsonCandidates, mem_collectParsed, List.mem_filterMap] at hd
      obtain ⟨candidate, -, hcandidate⟩ := hd
      exact hchecked.valid_iff.mpr (parseCandidate_named hcandidate)
    · have hnodes := congrArg Prod.fst hlinks
      simp only at hnodes
      constructor
      · intro hall link hlink hok
        obtain ⟨draft, hdraft⟩ := exists_ok hok
        refine (parseUri_valid_iff hdraft).mp (hall draft ?_)
        rw [hnodes, mem_collectParsed]
        exact List.mem_map.mpr ⟨link, hlink, hdraft⟩
      · intro hall d hd
        rw [hnodes, mem_collectParsed] at hd
        obtain ⟨link, hlink, hdraft⟩ := List.mem_map.mp hd
        exact (parseUri_valid_iff hdraft).mpr (hall link hlink (by rw [hdraft]; rfl))
  rw [← hvalid]
  constructor
  · exact And.left
  · intro hall
    refine ⟨hall, fun text p hinvalid => ?_⟩
    obtain ⟨d, hd, hbad⟩ := invalidNode_of_normalizeDrafts hinvalid
    have hd := hall d hd
    obtain hname | hserver | hport := hbad
    · rw [hd.name] at hname
      cases hname
    · rw [hd.server] at hserver
      cases hserver
    · exact hd.port hport

/-- Readers that accept nothing, for bodies of share links. -/
def noReaders : DocumentReaders := ⟨fun _ => none, fun _ => none, fun _ => none⟩

/-- Two good links with a name, around nothing else. -/
theorem parsed_drafts_valid_iff_links :
    ∃ result, parseSubscription noReaders "trojan://p@a:443#one\ntrojan://p@b:443" = .ok result ∧
      ∀ d ∈ result.nodes, d.Valid := by
  have hok : (parseSubscription noReaders "trojan://p@a:443#one\ntrojan://p@b:443").isOk = true := by
    decide +kernel
  obtain ⟨result, hresult⟩ := exists_ok hok
  exact ⟨result, hresult,
    ((parsed_drafts_valid_iff noReaders _ result hresult).mpr (by decide +kernel)).1⟩

/-- An empty pair of brackets is accepted as a server, and so is a fragment of one encoded
space as a name: the good link next to them is rejected with them. -/
theorem blank_link_rejects_batch :
    (∃ result, parseSubscription noReaders "trojan://p@[]:443\ntrojan://p@a:443#one" = .ok result ∧
      ¬ (∀ d ∈ result.nodes, d.Valid) ∧
      normalizeNodes ⟨fun _ => ""⟩ ⟨"provider"⟩ result.nodes = .error .invalidNode) ∧
    ∃ result, parseSubscription noReaders "trojan://p@b:443#%20\ntrojan://p@a:443#one" = .ok result ∧
      ¬ (∀ d ∈ result.nodes, d.Valid) ∧
      normalizeNodes ⟨fun _ => ""⟩ ⟨"provider"⟩ result.nodes = .error .invalidNode := by
  have hbatch {body : String}
      (hfails : (parseSubscription noReaders body).map
        (fun r => (r.nodes.all (fun d => !Text.blank d.name && !Text.blank d.server),
          normalizeNodes ⟨fun _ => ""⟩ ⟨"provider"⟩ r.nodes)) = .ok (false, .error .invalidNode)) :
      ∃ result, parseSubscription noReaders body = .ok result ∧
        ¬ (∀ d ∈ result.nodes, d.Valid) ∧
        normalizeNodes ⟨fun _ => ""⟩ ⟨"provider"⟩ result.nodes = .error .invalidNode := by
    obtain ⟨result, hresult, hfacts⟩ := map_eq_ok.mp hfails
    obtain ⟨hnamed, hrejected⟩ := Prod.mk.inj hfacts
    refine ⟨result, hresult, fun hall => ?_, hrejected⟩
    have hnamed' : result.nodes.all
        (fun d => !Text.blank d.name && !Text.blank d.server) = true := by
      rw [List.all_eq_true]
      intro d hd
      rw [(hall d hd).name, (hall d hd).server]
      rfl
    rw [hnamed] at hnamed'
    cases hnamed'
  exact ⟨hbatch (by decide +kernel), hbatch (by decide +kernel)⟩

end Veyra
