import Veyra.Lib.Check
import Veyra.Lib.Url
import Veyra.Platform.SystemProxy

/-!
# Veyra.Platform.SubscriptionProxy

The proxy for fetching subscriptions, as the setting of the system has it.

The setting is split by hand, put back together as an HTTP URL and judged by the parts that the
parser gives.  These say less than the text: a default port is gone, and a backslash or trailing
controls end the authority.
-/

namespace Veyra

open Check UrlStandard

inductive SubscriptionSystemProxyError
  | unavailable
  | unsupported
deriving DecidableEq, Repr

/-- What the one entry of the setting says, without its scheme. -/
def proxyAuthority (value : String) : Except SubscriptionSystemProxyError String :=
  match Text.splitOnce "=" value with
  | some (scheme, authority) => do
    let scheme := Text.lower (Text.trim scheme)
    reject (!(scheme = "http" || scheme = "https")) .unsupported
    pure (Text.trim authority)
  | none => pure value

/-- `resolve_subscription_proxy`. -/
def resolveSubscriptionProxy (parse : String → Option UrlRecord) (snapshot : ProxySnapshot) :
    Except SubscriptionSystemProxyError String := do
  reject (snapshot.autoDetect || snapshot.autoConfigEnabled || snapshot.autoConfigUrl.isSome ||
    !snapshot.proxyEnabled) .unsupported
  let value ← okOr ((snapshot.proxyServer.map Text.trim).filter fun value =>
    value ≠ "" && !Text.contains value ";") .unsupported
  let authority ← proxyAuthority value
  reject (authority = "" || Text.contains authority "/" || Text.contains authority "@" ||
    authority.toList.any Text.isWhite) .unsupported
  let url ← okOr (parse ("http://" ++ authority)) .unsupported
  reject (url.host.isNone || url.port.isNone || url.username ≠ "" || url.passwordOption.isSome ||
    url.query.isSome || url.fragment.isSome) .unsupported
  pure ("http://" ++ authority)

/-! ## What it is for -/

/-- A text is one entry of the setting: an authority, or one behind the name of its scheme.  White
space around either does not count. -/
def OneEntry (text authority : String) : Prop :=
  ';' ∉ text.toList ∧
    ('=' ∉ text.toList ∧ authority = text ∨
      ∃ scheme rest, text = scheme ++ "=" ++ rest ∧ '=' ∉ scheme.toList ∧
        (Text.lower (Text.trim scheme) = "http" ∨ Text.lower (Text.trim scheme) = "https") ∧
        authority = Text.trim rest)

/-- An authority is written as a host and a port. -/
def Written (hostParser : String → Option String) (authority host : String) (port : Nat) : Prop :=
  ∃ name digits, authority.toList = name ++ ':' :: digits ∧
    hostParser (String.ofList name) = some host ∧ Text.digits digits = some port ∧ port ≤ 65535

/-- A setting is one explicit authority. -/
def ExplicitProxy (hostParser : String → Option String) (text host : String) (port : Nat) : Prop :=
  ∃ authority, OneEntry (Text.trim text) authority ∧ Written hostParser authority host port ∧
    0 < port

/-- A URL names a host and a port over plain HTTP, and nothing besides.  The record has no port
where it is the default. -/
def Names (parse : String → Option UrlRecord) (url host : String) (port : Nat) : Prop :=
  ∃ record, parse url = some record ∧ record.scheme = "http" ∧ record.host = some host ∧
    record.port.getD 80 = port ∧ record.username = "" ∧ record.password = "" ∧
    record.path = "/" ∧ record.query = none ∧ record.fragment = none

/-- The setting asks for automatic configuration. -/
def ProxySnapshot.automatic (snapshot : ProxySnapshot) : Bool :=
  snapshot.autoDetect || snapshot.autoConfigEnabled || snapshot.autoConfigUrl.isSome

/-- **The proxy of the system is taken exactly when it is one explicit authority.** -/
structure TakenExactly (parse : String → Option UrlRecord) (hostParser : String → Option String)
    (snapshot : ProxySnapshot) : Prop where
  automatic : snapshot.automatic = true →
    resolveSubscriptionProxy parse snapshot = .error .unsupported
  taken : snapshot.proxyEnabled = true → snapshot.automatic = false →
    ∀ text, snapshot.proxyServer = some text →
      ((∃ url, resolveSubscriptionProxy parse snapshot = .ok url) ↔
        ∃ host port, ExplicitProxy hostParser text host port)
  names : ∀ text host port url, snapshot.proxyServer = some text →
    ExplicitProxy hostParser text host port →
    resolveSubscriptionProxy parse snapshot = .ok url → Names parse url host port
  refused : ∀ error, resolveSubscriptionProxy parse snapshot = .error error → error = .unsupported

/-! ## Where it is not -/

/-- An authority that may stand behind `http://` as it is. -/
def Plain (authority : String) : Prop :=
  ∀ c ∈ authority.toList, c ≠ '@' ∧ c ≠ '/' ∧ Text.isWhite c = false

/-- An authority that the parser reads otherwise than it is written: with port 80, which is
dropped, with port 0, or with a port other than 80 in front of a backslash, behind one, or in front
of trailing controls. -/
def Misread (hostParser : String → Option String) (authority : String) : Prop :=
  (∃ host port, Written hostParser authority host port ∧ (port = 80 ∨ port = 0)) ∨
    Plain authority ∧
      ('\\' ∈ authority.toList ∨ stripControls authority.toList ≠ authority.toList) ∧
      ∃ host port rest, readAuthority hostParser authority.toList = some ⟨host, some port, rest⟩ ∧
        port ≠ 80 ∧ '?' ∉ rest ∧ '#' ∉ rest

/-- An explicit setting of which the one entry is read otherwise than it is written. -/
def ProxySnapshot.misread (hostParser : String → Option String) (snapshot : ProxySnapshot) : Prop :=
  snapshot.proxyEnabled = true ∧ snapshot.automatic = false ∧
    ∃ text authority, snapshot.proxyServer = some text ∧ OneEntry (Text.trim text) authority ∧
      Misread hostParser authority

variable {parse : String → Option UrlRecord} {hostParser : String → Option String}
  {snapshot : ProxySnapshot} {text value authority url host : String} {port : Nat}

/-! ## The steps -/

theorem splitOnce_equals_some {scheme rest : String} :
    Text.splitOnce "=" value = some (scheme, rest) ↔
      value = scheme ++ "=" ++ rest ∧ '=' ∉ scheme.toList := by
  have hlist : ∀ {before after : List Char}, value = String.ofList before ++ "=" ++
      String.ofList after ↔ value.toList = before ++ '=' :: after := by
    intro before after
    rw [String.ext_iff]
    simp
  rw [Text.splitOnce, show "=".toList = ['='] from rfl, Option.map_eq_some_iff]
  constructor
  · rintro ⟨⟨before, after⟩, hsplit, heq⟩
    obtain ⟨rfl, rfl⟩ := Prod.mk.inj heq
    obtain ⟨hvalue, hmem⟩ := Text.splitOnceChars_eq_some.mp hsplit
    exact ⟨hlist.mpr hvalue, by rwa [String.toList_ofList]⟩
  · rintro ⟨rfl, hmem⟩
    refine ⟨(scheme.toList, rest.toList), Text.splitOnceChars_eq_some.mpr ⟨by simp, hmem⟩, ?_⟩
    rw [String.ofList_toList, String.ofList_toList]

theorem splitOnce_equals_none : Text.splitOnce "=" value = none ↔ '=' ∉ value.toList := by
  rw [Text.splitOnce, show "=".toList = ['='] from rfl, Option.map_eq_none_iff]
  exact Text.splitOnceChars_eq_none

theorem proxyAuthority_eq_ok : proxyAuthority value = .ok authority ↔
    '=' ∉ value.toList ∧ authority = value ∨
      ∃ scheme rest, value = scheme ++ "=" ++ rest ∧ '=' ∉ scheme.toList ∧
        (Text.lower (Text.trim scheme) = "http" ∨ Text.lower (Text.trim scheme) = "https") ∧
        authority = Text.trim rest := by
  have hknown : ∀ name : String, (!(name = "http" || name = "https")) = false ↔
      name = "http" ∨ name = "https" := fun name => by
    rw [Bool.not_eq_false', Bool.or_eq_true, decide_eq_true_eq, decide_eq_true_eq]
  unfold proxyAuthority
  cases hsplit : Text.splitOnce "=" value with
  | none =>
    have hmem := splitOnce_equals_none.mp hsplit
    constructor
    · intro h
      cases h
      exact .inl ⟨hmem, rfl⟩
    · rintro (⟨-, rfl⟩ | ⟨scheme, rest, hvalue, hscheme, -⟩)
      · rfl
      · rw [splitOnce_equals_some.mpr ⟨hvalue, hscheme⟩] at hsplit
        cases hsplit
  | some parts =>
    obtain ⟨scheme, rest⟩ := parts
    obtain ⟨hvalue, hscheme⟩ := splitOnce_equals_some.mp hsplit
    constructor
    · intro h
      obtain ⟨hchecked, h⟩ := ok_seq.mp h
      cases h
      exact .inr ⟨scheme, rest, hvalue, hscheme, (hknown _).mp (reject_eq_ok.mp hchecked), rfl⟩
    · rintro (⟨hmem, -⟩ | ⟨scheme', rest', hvalue', hscheme', hscheme, rfl⟩)
      · rw [splitOnce_equals_none.mpr hmem] at hsplit
        cases hsplit
      · rw [splitOnce_equals_some.mpr ⟨hvalue', hscheme'⟩] at hsplit
        cases hsplit
        exact ok_seq.mpr ⟨reject_eq_ok.mpr ((hknown _).mpr hscheme), rfl⟩

/-- The parts of the code that look for one entry. -/
theorem oneEntry_iff : OneEntry value authority ↔
    Text.contains value ";" = false ∧ proxyAuthority value = .ok authority := by
  have hsemicolon : Text.contains value ";" = false ↔ ';' ∉ value.toList := by
    rw [show ";" = String.singleton ';' from rfl, ← Bool.not_eq_true, Text.contains_singleton]
  rw [OneEntry, hsemicolon, proxyAuthority_eq_ok]

/-- What passes the checks on the text of the authority and on the parts of its URL. -/
def Judged (parse : String → Option UrlRecord) (authority : String) : Prop :=
  authority ≠ "" ∧ Plain authority ∧ ∃ record, parse ("http://" ++ authority) = some record ∧
    record.host.isSome = true ∧ record.port.isSome = true ∧ record.username = "" ∧
    record.password = "" ∧ record.query = none ∧ record.fragment = none

theorem plain_iff : Plain authority ↔
    Text.contains authority "/" = false ∧ Text.contains authority "@" = false ∧
      authority.toList.any Text.isWhite = false := by
  rw [show "/" = String.singleton '/' from rfl, show "@" = String.singleton '@' from rfl,
    ← Bool.not_eq_true, ← Bool.not_eq_true, Text.contains_singleton, Text.contains_singleton,
    List.any_eq_false]
  constructor
  · intro hplain
    exact ⟨fun h => (hplain _ h).2.1 rfl, fun h => (hplain _ h).1 rfl,
      fun c hc => by simp [(hplain c hc).2.2]⟩
  · rintro ⟨hslash, hat, hwhite⟩ c hc
    refine ⟨?_, ?_, by simpa using hwhite c hc⟩
    · rintro rfl
      exact hat hc
    · rintro rfl
      exact hslash hc

theorem oneEntry_empty (h : OneEntry "" authority) : authority = "" := by
  obtain ⟨-, ⟨-, rfl⟩ | ⟨scheme, rest, hvalue, -⟩⟩ := h
  · rfl
  · have hchars := congrArg String.toList hvalue
    simp at hchars

/-- The code, read as a whole. -/
theorem resolve_eq_ok : resolveSubscriptionProxy parse snapshot = .ok url ↔
    snapshot.proxyEnabled = true ∧ snapshot.automatic = false ∧
      ∃ text authority, snapshot.proxyServer = some text ∧ OneEntry (Text.trim text) authority ∧
        Judged parse authority ∧ url = "http://" ++ authority := by
  constructor
  · intro h
    obtain ⟨hmode, h⟩ := ok_seq.mp h
    obtain ⟨value, hvalue, h⟩ := ok_bind.mp h
    obtain ⟨authority, hauthority, h⟩ := ok_bind.mp h
    obtain ⟨htext, h⟩ := ok_seq.mp h
    obtain ⟨record, hparse, h⟩ := ok_bind.mp h
    obtain ⟨hparts, h⟩ := ok_seq.mp h
    cases h
    rw [reject_eq_ok] at hmode htext hparts
    obtain ⟨hserver, hone⟩ := Option.filter_eq_some_iff.mp (okOr_eq_ok.mp hvalue)
    obtain ⟨text, htrimmed, rfl⟩ := Option.map_eq_some_iff.mp hserver
    obtain ⟨hautomatic, henabled⟩ := Bool.or_eq_false_iff.mp hmode
    simp only [Bool.or_eq_false_iff, decide_eq_false_iff_not] at htext
    obtain ⟨⟨⟨hne, hslash⟩, hat⟩, hwhite⟩ := htext
    simp only [Bool.and_eq_true, Bool.not_eq_true', decide_eq_true_eq] at hone
    simp only [Bool.or_eq_false_iff, decide_eq_false_iff_not, ne_eq, not_not,
      Option.isNone_eq_false_iff, Option.isSome_eq_false_iff, Option.isNone_iff_eq_none,
      UrlRecord.passwordOption_eq_none] at hparts
    obtain ⟨⟨⟨⟨⟨hhost, hport⟩, husername⟩, hpassword⟩, hquery⟩, hfragment⟩ := hparts
    exact ⟨by simpa using henabled, hautomatic, text, authority, htrimmed,
      oneEntry_iff.mpr ⟨hone.2, hauthority⟩, ⟨hne, plain_iff.mpr ⟨hslash, hat, hwhite⟩, record,
        okOr_eq_ok.mp hparse, hhost, hport, husername, hpassword, hquery, hfragment⟩, rfl⟩
  · rintro ⟨henabled, hautomatic, text, authority, htext, hone, ⟨hne, hplain, record, hparse,
      hhost, hport, husername, hpassword, hquery, hfragment⟩, rfl⟩
    obtain ⟨hslash, hat, hwhite⟩ := plain_iff.mp hplain
    have hvalue : Text.trim text ≠ "" := fun hempty => hne (oneEntry_empty (hempty ▸ hone))
    obtain ⟨hsemicolon, hauthority⟩ := oneEntry_iff.mp hone
    refine ok_seq.mpr ⟨reject_eq_ok.mpr ?_, ok_bind.mpr ⟨Text.trim text, okOr_eq_ok.mpr ?_,
      ok_bind.mpr ⟨authority, hauthority, ok_seq.mpr ⟨reject_eq_ok.mpr ?_,
        ok_bind.mpr ⟨record, okOr_eq_ok.mpr hparse, ok_seq.mpr ⟨reject_eq_ok.mpr ?_, rfl⟩⟩⟩⟩⟩⟩
    · exact Bool.or_eq_false_iff.mpr ⟨hautomatic, by rw [henabled]; rfl⟩
    · rw [htext]
      exact Option.filter_eq_some_iff.mpr ⟨rfl, by simp [hvalue, hsemicolon]⟩
    · simp [hne, hslash, hat, hwhite]
    · simp [hhost, hport, husername, hquery, hfragment, hpassword,
        UrlRecord.passwordOption_eq_none]

theorem proxyAuthority_error {error : SubscriptionSystemProxyError}
    (h : proxyAuthority value = .error error) : error = .unsupported := by
  unfold proxyAuthority at h
  cases hsplit : Text.splitOnce "=" value with
  | none =>
    rw [hsplit] at h
    cases h
  | some parts =>
    rw [hsplit] at h
    obtain hscheme | ⟨-, -, h⟩ := error_bind.mp h
    · exact (reject_eq_error.mp hscheme).2.symm
    · cases h

/-- Every failure is the same. -/
theorem resolve_error {error : SubscriptionSystemProxyError}
    (h : resolveSubscriptionProxy parse snapshot = .error error) : error = .unsupported := by
  have hmissing : ∀ {α : Type} {o : Option α}, okOr o SubscriptionSystemProxyError.unsupported =
      .error error → error = .unsupported := by
    intro α o ho
    cases o with
    | none => cases ho; rfl
    | some a => cases ho
  obtain hmode | ⟨_, -, h⟩ := error_bind.mp h
  · exact (reject_eq_error.mp hmode).2.symm
  obtain hvalue | ⟨_, -, h⟩ := error_bind.mp h
  · exact hmissing hvalue
  obtain hauthority | ⟨_, -, h⟩ := error_bind.mp h
  · exact proxyAuthority_error hauthority
  obtain htext | ⟨_, -, h⟩ := error_bind.mp h
  · exact (reject_eq_error.mp htext).2.symm
  obtain hparse | ⟨_, -, h⟩ := error_bind.mp h
  · exact hmissing hparse
  obtain hparts | ⟨_, -, h⟩ := error_bind.mp h
  · exact (reject_eq_error.mp hparts).2.symm
  · cases h

/-! ## What is written and what is read -/

/-- An authority that the checks accept, by the standard: the port is not the default one, and
there is no query and no fragment. -/
def ReadsAs (hostParser : String → Option String) (authority : String) : Prop :=
  Plain authority ∧ ∃ host port rest,
    readAuthority hostParser authority.toList = some ⟨host, some port, rest⟩ ∧ port ≠ 80 ∧
      '?' ∉ rest ∧ '#' ∉ rest

theorem judged_iff (standard : ReadsHttp parse hostParser) (facts : HostFacts hostParser) :
    Judged parse authority ↔ ReadsAs hostParser authority := by
  constructor
  · rintro ⟨-, hplain, record, hparse, -, hport, -, -, hquery, hfragment⟩
    cases hread : readAuthority hostParser authority.toList with
    | none =>
      rw [standard.fails _ hplain hread] at hparse
      cases hparse
    | some read =>
      obtain ⟨host, port, rest⟩ := read
      obtain ⟨path, query, fragment, hparsed, hasQuery, hasFragment, -⟩ :=
        standard.reads _ _ hplain hread
      obtain rfl := Option.some.inj (hparsed.symm.trans hparse)
      obtain ⟨number, hnumber⟩ := Option.isSome_iff_exists.mp hport
      obtain ⟨rfl, hne⟩ := Option.filter_eq_some_iff.mp hnumber
      obtain rfl : query = none := hquery
      obtain rfl : fragment = none := hfragment
      have hsharp : '#' ∉ rest := fun h => by simpa using hasFragment.mpr h
      refine ⟨hplain, host, number, rest, hread, by simpa using hne, fun h => ?_, hsharp⟩
      have hwhole : rest.takeWhile (· ≠ '#') = rest :=
        List.takeWhile_eq_self_iff.mpr fun c hc => by
          simpa using fun hc' : c = '#' => hsharp (hc' ▸ hc)
      simpa using hasQuery.mpr (by rwa [hwhole])
  · rintro ⟨hplain, host, port, rest, hread, hne, hquestion, hsharp⟩
    obtain ⟨path, query, fragment, hparsed, hasQuery, hasFragment, -⟩ :=
      standard.reads _ _ hplain hread
    refine ⟨?_, hplain, _, hparsed, rfl, by simp [hne], rfl, rfl, ?_, ?_⟩
    · rintro rfl
      have hnone : readAuthority hostParser "".toList = none := by
        simp [readAuthority, stripControls, splitPort, facts.nonempty]
      rw [hnone] at hread
      cases hread
    · rw [← Option.not_isSome_iff_eq_none, hasQuery]
      exact fun h => hquestion ((List.takeWhile_sublist _).subset h)
    · rw [← Option.not_isSome_iff_eq_none, hasFragment]
      exact hsharp

/-- A host and a port stand behind `http://` as they are, and are read as such. -/
theorem Written.reads (h : Written hostParser authority host port)
    (facts : HostFacts hostParser) :
    Plain authority ∧ readAuthority hostParser authority.toList = some ⟨host, some port, []⟩ ∧
      '\\' ∉ authority.toList ∧ stripControls authority.toList = authority.toList := by
  obtain ⟨name, digits, hauthority, hhost, hdigits, hport⟩ := h
  have hchars := facts.form_chars hhost hdigits
  rw [Plain, hauthority]
  refine ⟨fun c hc => ?_, facts.readAuthority_form hhost hdigits hport, fun h => ?_,
    stripControls_eq_self fun c hc => (hchars c hc).2.2.2⟩
  · obtain ⟨hends, hat, hwhite, -⟩ := hchars c hc
    refine ⟨hat, ?_, hwhite⟩
    rintro rfl
    cases hends
  · have hends := (hchars _ h).1
    cases hends

/-- What is read without a rest, and without a backslash and trailing controls, is written so. -/
theorem ReadsAs.written (h : ReadsAs hostParser authority)
    (hslash : '\\' ∉ authority.toList)
    (hcontrols : stripControls authority.toList = authority.toList) :
    ∃ host port, Written hostParser authority host port ∧ port ≠ 80 := by
  obtain ⟨hplain, host, port, rest, hread, hne, hquestion, hsharp⟩ := h
  have hslashes : ∀ c ∈ authority.toList, isSlash c = false := by
    intro c hc
    rw [isSlash, Bool.or_eq_false_iff, decide_eq_false_iff_not, decide_eq_false_iff_not]
    exact ⟨(hplain c hc).2.1, fun hc' => hslash (hc' ▸ hc)⟩
  obtain ⟨name, digits, hauthority, hhost, hdigits, hport⟩ :=
    form_of_readAuthority hread hcontrols hslashes
      fun c hc => ⟨fun hc' => hquestion (hc' ▸ hc), fun hc' => hsharp (hc' ▸ hc)⟩
  exact ⟨host, port, ⟨name, digits, hauthority, hhost, hdigits, hport⟩, hne⟩

/-- An authority is accepted exactly when it is written as a host and a nonzero port, unless it is
misread. -/
theorem readsAs_iff (facts : HostFacts hostParser) :
    (ReadsAs hostParser authority ↔
      ∃ host port, Written hostParser authority host port ∧ 0 < port) ↔
      ¬ Misread hostParser authority := by
  constructor
  · rintro hagree (⟨host, port, hwritten, hport⟩ | ⟨hplain, hodd, host, port, rest, hread⟩)
    · obtain ⟨hplain, hread, -, -⟩ := hwritten.reads facts
      obtain rfl | rfl := hport
      · obtain ⟨-, host', port', rest, hread', hne, -⟩ :=
          hagree.mpr ⟨host, 80, hwritten, by omega⟩
        rw [hread] at hread'
        cases hread'
        exact hne rfl
      · obtain ⟨host', port', hwritten', hpositive⟩ :=
          hagree.mp ⟨hplain, host, 0, [], hread, by omega, List.not_mem_nil, List.not_mem_nil⟩
        have hread' := (hwritten'.reads facts).2.1
        rw [hread] at hread'
        cases hread'
        omega
    · obtain ⟨host', port', hwritten, -⟩ := hagree.mp ⟨hplain, host, port, rest, hread⟩
      obtain ⟨-, -, hslash, hcontrols⟩ := hwritten.reads facts
      obtain hmem | hne := hodd
      · exact hslash hmem
      · exact hne hcontrols
  · intro hread
    constructor
    · intro hreads
      have hclean : '\\' ∉ authority.toList ∧
          stripControls authority.toList = authority.toList := by
        by_contra hodd
        exact hread (.inr ⟨hreads.1, by rwa [not_and_or, not_not] at hodd, hreads.2⟩)
      obtain ⟨host, port, hwritten, hne⟩ := hreads.written hclean.1 hclean.2
      have hport : port ≠ 0 := fun hport => hread (.inl ⟨host, port, hwritten, .inr hport⟩)
      exact ⟨host, port, hwritten, by omega⟩
    · rintro ⟨host, port, hwritten, hpositive⟩
      obtain ⟨hplain, hreads, -, -⟩ := hwritten.reads facts
      have hport : port ≠ 80 := fun hport => hread (.inl ⟨host, port, hwritten, .inl hport⟩)
      exact ⟨hplain, host, port, [], hreads, hport, List.not_mem_nil, List.not_mem_nil⟩

/-! ## The whole setting -/

theorem oneEntry_unique {authority' : String} (h : OneEntry value authority)
    (h' : OneEntry value authority') : authority = authority' := by
  have heq := (oneEntry_iff.mp h).2.symm.trans (oneEntry_iff.mp h').2
  cases heq
  rfl

/-- What is written behind `http://` is what the URL names. -/
theorem Written.names (h : Written hostParser authority host port)
    (standard : ReadsHttp parse hostParser) (facts : HostFacts hostParser) :
    Names parse ("http://" ++ authority) host port := by
  obtain ⟨hplain, hread, -, -⟩ := h.reads facts
  obtain ⟨path, query, fragment, hparsed, hasQuery, hasFragment, hpath⟩ :=
    standard.reads _ _ hplain hread
  have hport : ((some port).filter (· ≠ 80)).getD 80 = port := by
    by_cases hport : port = 80
    · rw [hport]
      rfl
    · rw [Option.filter_some, if_pos (decide_eq_true hport)]
      rfl
  refine ⟨_, hparsed, rfl, rfl, hport, rfl, rfl, hpath rfl, ?_, ?_⟩
  · rw [← Option.not_isSome_iff_eq_none, hasQuery]
    exact List.not_mem_nil
  · rw [← Option.not_isSome_iff_eq_none, hasFragment]
    exact List.not_mem_nil

/-- **The proxy of the system is taken exactly when it is one explicit authority, unless that
authority is misread.** -/
theorem proxy_taken_exactly_iff (standard : ReadsHttp parse hostParser)
    (facts : HostFacts hostParser) (snapshot : ProxySnapshot) :
    TakenExactly parse hostParser snapshot ↔ ¬ snapshot.misread hostParser := by
  constructor
  · rintro htaken ⟨henabled, hautomatic, text, authority, htext, hone, hmisread⟩
    have hagree := htaken.taken henabled hautomatic text htext
    refine (readsAs_iff facts).mp ⟨fun hreads => ?_, ?_⟩ hmisread
    · have hjudged := (judged_iff standard facts).mpr hreads
      obtain ⟨host, port, authority', hone', hwritten, hport⟩ := hagree.mp ⟨_, resolve_eq_ok.mpr
        ⟨henabled, hautomatic, text, authority, htext, hone, hjudged, rfl⟩⟩
      exact ⟨host, port, oneEntry_unique hone hone' ▸ hwritten, hport⟩
    · rintro ⟨host, port, hwritten, hport⟩
      obtain ⟨url, hurl⟩ := hagree.mpr ⟨host, port, authority, hone, hwritten, hport⟩
      obtain ⟨-, -, text', authority', htext', hone', hjudged, -⟩ := resolve_eq_ok.mp hurl
      obtain rfl := Option.some.inj (htext.symm.trans htext')
      rw [oneEntry_unique hone hone']
      exact (judged_iff standard facts).mp hjudged
  · intro hread
    refine ⟨fun hautomatic => ?_, fun henabled hautomatic text htext => ?_,
      fun text host port url htext hexplicit hurl => ?_, fun error => resolve_error⟩
    · cases hresult : resolveSubscriptionProxy parse snapshot with
      | error error => rw [resolve_error hresult]
      | ok url =>
        have hexplicit := (resolve_eq_ok.mp hresult).2.1
        rw [hautomatic] at hexplicit
        cases hexplicit
    · have hagree : ∀ authority, OneEntry (Text.trim text) authority →
          (ReadsAs hostParser authority ↔
            ∃ host port, Written hostParser authority host port ∧ 0 < port) :=
        fun authority hone => (readsAs_iff facts).mpr fun hmisread =>
          hread ⟨henabled, hautomatic, text, authority, htext, hone, hmisread⟩
      constructor
      · rintro ⟨url, hurl⟩
        obtain ⟨-, -, text', authority, htext', hone, hjudged, -⟩ := resolve_eq_ok.mp hurl
        obtain rfl := Option.some.inj (htext.symm.trans htext')
        obtain ⟨host, port, hwritten, hport⟩ :=
          (hagree authority hone).mp ((judged_iff standard facts).mp hjudged)
        exact ⟨host, port, authority, hone, hwritten, hport⟩
      · rintro ⟨host, port, authority, hone, hwritten, hport⟩
        have hreads := (hagree authority hone).mpr ⟨host, port, hwritten, hport⟩
        exact ⟨_, resolve_eq_ok.mpr ⟨henabled, hautomatic, text, authority, htext, hone,
          (judged_iff standard facts).mpr hreads, rfl⟩⟩
    · obtain ⟨authority, hone, hwritten, -⟩ := hexplicit
      obtain ⟨-, -, text', authority', htext', hone', -, rfl⟩ := resolve_eq_ok.mp hurl
      obtain rfl := Option.some.inj (htext.symm.trans htext')
      rw [← oneEntry_unique hone hone']
      exact hwritten.names standard facts

/-- A host parser that knows one name. -/
def oneHost (text : String) : Option String :=
  if text = "proxy.example.invalid" then some text else none

/-- The parser over it, for what stands behind `http://`. -/
def oneHostUrl (text : String) : Option UrlRecord := do
  let text ← Text.stripPrefix "http://" text
  let authority ← readAuthority oneHost text.toList
  some
    { scheme := "http", username := "", password := "", host := some authority.host
      port := authority.port.filter (· ≠ 80), path := "/"
      query := if '?' ∈ authority.rest.takeWhile (· ≠ '#') then some "" else none
      fragment := if '#' ∈ authority.rest then some "" else none }

theorem oneHost_facts : HostFacts oneHost where
  nonempty := rfl
  forbidden := fun text host h => by
    have hall : "proxy.example.invalid".toList.all (fun c => !endsAuthority c && c ≠ '@' &&
      !Text.isWhite c && 0x20 < c.toNat) = true := by decide
    rw [oneHost] at h
    split at h
    · next htext => simpa [htext, and_assoc] using hall
    · cases h
  brackets := fun text host h => by
    rw [oneHost] at h
    split at h
    · next htext => exact .inl (by simp [htext])
    · cases h

theorem oneHostUrl_reads : ReadsHttp oneHostUrl oneHost where
  fails := fun text _ hread => by
    rw [oneHostUrl, Text.stripPrefix_append, Option.bind_eq_bind, Option.bind_some, hread]
    rfl
  reads := fun text authority _ hread => by
    have hmark : ∀ (p : Prop) [Decidable p],
        (if p then some "" else none : Option String).isSome = true ↔ p := by
      intro p _
      by_cases hp : p <;> simp [hp]
    refine ⟨"/", if '?' ∈ authority.rest.takeWhile (· ≠ '#') then some "" else none,
      if '#' ∈ authority.rest then some "" else none, ?_, hmark _, hmark _, fun _ => rfl⟩
    rw [oneHostUrl, Text.stripPrefix_append, Option.bind_eq_bind, Option.bind_some, hread]
    rfl

/-- An explicit setting without automatic configuration. -/
def explicitSnapshot (proxyServer : String) : ProxySnapshot where
  direct := true
  proxyEnabled := true
  proxyServer := some proxyServer
  proxyBypass := none
  autoConfigUrl := none
  autoConfigEnabled := false
  autoDetect := false

theorem proxy_taken_exactly_iff_http :
    TakenExactly oneHostUrl oneHost (explicitSnapshot "http=proxy.example.invalid:8080") := by
  refine (proxy_taken_exactly_iff oneHostUrl_reads oneHost_facts _).mpr ?_
  rintro ⟨-, -, text, authority, htext, hone, hmisread⟩
  obtain rfl := Option.some.inj htext
  have hauthority : proxyAuthority (Text.trim "http=proxy.example.invalid:8080") =
      .ok "proxy.example.invalid:8080" := by decide
  have heq := hauthority.symm.trans (oneEntry_iff.mp hone).2
  obtain rfl := Except.ok.inj heq
  have hclean : '\\' ∉ "proxy.example.invalid:8080".toList ∧
      stripControls "proxy.example.invalid:8080".toList = "proxy.example.invalid:8080".toList := by
    decide
  obtain ⟨host, port, hwritten, hport⟩ | ⟨-, hslash | hcontrols, -⟩ := hmisread
  · have hread := (hwritten.reads oneHost_facts).2.1
    have hport' : (readAuthority oneHost "proxy.example.invalid:8080".toList).map
        Authority.port = some (some 8080) := by decide
    rw [hread] at hport'
    obtain rfl : port = 8080 := Option.some.inj (Option.some.inj hport')
    omega
  · exact hclean.1 hslash
  · exact hcontrols hclean.2

/-- The default port is dropped from the record, and then it is missed. -/
theorem proxy_on_default_port : ReadsHttp oneHostUrl oneHost ∧ HostFacts oneHost ∧
    resolveSubscriptionProxy oneHostUrl (explicitSnapshot "proxy.example.invalid:80") =
      .error .unsupported ∧
    ¬ TakenExactly oneHostUrl oneHost (explicitSnapshot "proxy.example.invalid:80") := by
  have hrefused : resolveSubscriptionProxy oneHostUrl (explicitSnapshot
      "proxy.example.invalid:80") = .error .unsupported := by decide
  refine ⟨oneHostUrl_reads, oneHost_facts, hrefused, fun htaken => ?_⟩
  have hexplicit : ExplicitProxy oneHost "proxy.example.invalid:80" "proxy.example.invalid" 80 := by
    refine ⟨"proxy.example.invalid:80", ⟨by decide, .inl ⟨by decide, by decide⟩⟩,
      ⟨"proxy.example.invalid".toList, "80".toList, by decide, ?_, by decide, by decide⟩, by decide⟩
    rw [String.ofList_toList]
    decide
  obtain ⟨url, hurl⟩ := (htaken.taken rfl rfl _ rfl).mpr ⟨_, _, hexplicit⟩
  rw [hrefused] at hurl
  cases hurl

end Veyra
