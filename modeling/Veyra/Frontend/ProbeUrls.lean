import Veyra.Application.RoutingAcceptance
import Veyra.Lib.Url

/-!
# Veyra.Frontend.ProbeUrls

The probe URL of a URL test is checked three times: in the form, when the selection is saved, and
when the configuration is compiled.  All three parse it by the URL Standard.

The checks differ on plain HTTP to the loopback host.  The browser writes an IPv6 host in brackets
and an empty query or fragment as none; the crate writes the same host in brackets too, but the
backend looks for it without, and an empty query or fragment is one.
-/

namespace Veyra.Frontend

open Check ProxyRouting UrlStandard

variable {parse : String → Option UrlRecord} {value : String}

/-! ## The form -/

/-- `validProbeUrl`. -/
def validProbeUrl (parse : String → Option UrlRecord) (value : String) : Bool :=
  match parse value with
  | none => false
  | some url =>
    if Text.len value > 2048 then false
    else if url.protocol = "https:" then true
    else url.protocol = "http:" && url.username = "" && url.password = "" && url.search = "" &&
      url.hash = "" && (url.hostname = "127.0.0.1" || url.hostname = "[::1]")

/-! ## The crate -/

/-- The parts that the backend reads from a record. -/
def probeUrl (url : UrlRecord) : ProbeUrl :=
  { scheme := url.scheme, username := url.username, password := url.passwordOption
    query := url.query, fragment := url.fragment, host := url.host }

/-- The backend over a parser. -/
def parserEnv (parse : String → Option UrlRecord) (random : Option (List UInt8)) : Env :=
  { parseUrl := fun value => (parse value).map probeUrl, random }

/-- What the standard says of the hosts of parsed URLs: an IPv6 host stands in brackets, and an
`https` URL has a host. -/
structure StandardHosts (parse : String → Option UrlRecord) : Prop where
  brackets : ∀ value url, parse value = some url → url.host ≠ some "::1"
  https : ∀ value url, parse value = some url → url.scheme = "https" → url.host.isSome = true

/-! ## Where they differ -/

/-- A plain HTTP URL of the loopback host that the form takes and the backend does not: on IPv6,
or with an empty query or fragment. -/
def Disputed (parse : String → Option UrlRecord) (value : String) : Prop :=
  ∃ url, parse value = some url ∧ url.scheme = "http" ∧ url.username = "" ∧ url.password = "" ∧
    url.query.getD "" = "" ∧ url.fragment.getD "" = "" ∧
    (url.host = some "[::1]" ∨
      url.host = some "127.0.0.1" ∧ (url.query = some "" ∨ url.fragment = some ""))

theorem hostname_eq {url : UrlRecord} {text : String} (htext : text ≠ "") :
    url.hostname = text ↔ url.host = some text := by
  rw [UrlRecord.hostname]
  cases url.host with
  | none => simp [htext.symm]
  | some host => simp

/-- The form takes every `https` URL, and `http` to the loopback host with nothing besides. -/
theorem validProbeUrl_iff (hlen : Text.len value ≤ 2048) :
    validProbeUrl parse value = true ↔
      ∃ url, parse value = some url ∧
        (url.scheme = "https" ∨ url.scheme = "http" ∧ url.username = "" ∧ url.password = "" ∧
          url.query.getD "" = "" ∧ url.fragment.getD "" = "" ∧
          (url.host = some "127.0.0.1" ∨ url.host = some "[::1]")) := by
  rw [validProbeUrl]
  cases hparse : parse value with
  | none => simp
  | some url =>
    have hhttps : url.protocol = "https:" ↔ url.scheme = "https" :=
      @UrlRecord.protocol_eq url "https"
    have hhttp : url.protocol = "http:" ↔ url.scheme = "http" := @UrlRecord.protocol_eq url "http"
    have hv4 := @hostname_eq url "127.0.0.1" (by decide)
    have hv6 := @hostname_eq url "[::1]" (by decide)
    dsimp only
    rw [if_neg (Nat.not_lt.mpr hlen)]
    by_cases hscheme : url.scheme = "https"
    · rw [if_pos (hhttps.mpr hscheme)]
      exact ⟨fun _ => ⟨url, rfl, .inl hscheme⟩, fun _ => rfl⟩
    · rw [if_neg (mt hhttps.mp hscheme)]
      simp only [Bool.and_eq_true, Bool.or_eq_true, decide_eq_true_eq, hhttp, hv4, hv6,
        UrlRecord.search, UrlRecord.hash, marked_eq_empty, and_assoc]
      constructor
      · intro haccepted
        exact ⟨url, rfl, .inr haccepted⟩
      · rintro ⟨found, hfound, haccepted⟩
        obtain rfl := Option.some.inj hfound
        exact haccepted.resolve_left hscheme

/-- The backend takes every `https` URL, and `http` to 127.0.0.1 with no query or fragment. -/
theorem validateSelection_urlTest_iff (hhosts : StandardHosts parse)
    (hlen : Text.len value ≤ 2048) {random : Option (List UInt8)} {intervalSeconds : UInt64}
    {toleranceMs : UInt32} (hinterval : 1 ≤ intervalSeconds ∧ intervalSeconds ≤ 86400)
    (htolerance : toleranceMs ≤ 60000) :
    validateSelection (parserEnv parse random) (.urlTest value intervalSeconds toleranceMs) =
        .ok () ↔
      ∃ url, parse value = some url ∧
        (url.scheme = "https" ∨ url.scheme = "http" ∧ url.username = "" ∧ url.password = "" ∧
          url.query = none ∧ url.fragment = none ∧ url.host = some "127.0.0.1") := by
  have hbounds : (!(decide (1 ≤ intervalSeconds) && decide (intervalSeconds ≤ 86400)) ||
      decide (toleranceMs > 60000) || decide (Text.len value > 2048)) = false := by
    simp [hinterval, hlen, UInt32.not_lt.mpr htolerance]
  rw [validateSelection, reject_eq_ok, hbounds, Bool.false_or, Bool.not_eq_false',
    ProxyRouting.validProbeUrl, parserEnv, Option.any_map]
  cases hparse : parse value with
  | none => simp
  | some url =>
    have hhost := hhosts.brackets value url hparse
    change (url.scheme = "https" || (url.scheme = "http" && url.username = "" &&
      url.passwordOption.isNone && url.query.isNone && url.fragment.isNone &&
      (url.host = some "127.0.0.1" || url.host = some "::1"))) = true ↔ _
    simp only [Bool.or_eq_true, Bool.and_eq_true, decide_eq_true_eq, Option.isNone_iff_eq_none,
      UrlRecord.passwordOption_eq_none, and_assoc, hhost, or_false, Option.some.injEq,
      exists_eq_left']

/-- The form and the backend agree, and the compiler takes what either of them takes. -/
structure ValidatorsAgree (parse : String → Option UrlRecord) (random : Option (List UInt8))
    (value : String) (intervalSeconds : UInt64) (toleranceMs : UInt32) : Prop where
  saved : validProbeUrl parse value = true ↔
    validateSelection (parserEnv parse random) (.urlTest value intervalSeconds toleranceMs) =
      .ok ()
  compiled : validProbeUrl parse value = true ∨
    validateSelection (parserEnv parse random) (.urlTest value intervalSeconds toleranceMs) =
      .ok () →
    (parserEnv parse random).compiler.validProbeUrl value = true

/-- What the form takes, the compiler takes. -/
theorem validProbeUrl_compiles (hhosts : StandardHosts parse) (hlen : Text.len value ≤ 2048)
    (h : validProbeUrl parse value = true) (random : Option (List UInt8)) :
    (parserEnv parse random).compiler.validProbeUrl value = true := by
  obtain ⟨url, hparse, haccepted⟩ := (validProbeUrl_iff hlen).mp h
  have hhost : (url.scheme = "http" ∨ url.scheme = "https") ∧ url.host.isSome = true := by
    rcases haccepted with hscheme | ⟨hscheme, -, -, -, -, hhost | hhost⟩
    · exact ⟨.inr hscheme, hhosts.https value url hparse hscheme⟩
    · exact ⟨.inl hscheme, by rw [hhost]; rfl⟩
    · exact ⟨.inl hscheme, by rw [hhost]; rfl⟩
  rw [CompilerEnv.validProbeUrl, Env.compiler, parserEnv]
  simpa [hparse, probeUrl] using hhost

theorem none_of_empty {part : Option String} (h : part.getD "" = "") (hpart : part ≠ some "") :
    part = none := by
  cases part with
  | none => rfl
  | some text => exact absurd (congrArg some h) hpart

/-- **The probe URL validators** agree on a text if and only if it is no disputed URL. -/
theorem probe_validators_agree_iff (parse : String → Option UrlRecord)
    (random : Option (List UInt8)) (hhosts : StandardHosts parse) (value : String)
    (hlen : Text.len value ≤ 2048) (intervalSeconds : UInt64) (toleranceMs : UInt32)
    (hinterval : 1 ≤ intervalSeconds ∧ intervalSeconds ≤ 86400) (htolerance : toleranceMs ≤ 60000) :
    ValidatorsAgree parse random value intervalSeconds toleranceMs ↔ ¬ Disputed parse value := by
  have hform := @validProbeUrl_iff parse value hlen
  have hbackend := @validateSelection_urlTest_iff parse value hhosts hlen random intervalSeconds
    toleranceMs hinterval htolerance
  constructor
  · rintro ⟨hsaved, -⟩ ⟨url, hparse, hscheme, husername, hpassword, hquery, hfragment, hhost⟩
    rw [hform, hbackend] at hsaved
    have hloopback : url.host = some "127.0.0.1" ∨ url.host = some "[::1]" :=
      hhost.elim .inr fun h => .inl h.1
    obtain ⟨found, hfound, haccepted⟩ := hsaved.mp ⟨url, hparse, .inr
      ⟨hscheme, husername, hpassword, hquery, hfragment, hloopback⟩⟩
    rw [hparse] at hfound
    obtain rfl := Option.some.inj hfound
    rcases haccepted with hhttps | ⟨-, -, -, hnoQuery, hnoFragment, hv4⟩
    · exact absurd (hscheme.symm.trans hhttps) (by decide)
    · rcases hhost with hv6 | ⟨-, hempty | hempty⟩
      · exact absurd (hv4.symm.trans hv6) (by decide)
      · exact absurd (hnoQuery.symm.trans hempty) (by decide)
      · exact absurd (hnoFragment.symm.trans hempty) (by decide)
  · intro hundisputed
    have hsaved : validProbeUrl parse value = true ↔
        validateSelection (parserEnv parse random) (.urlTest value intervalSeconds toleranceMs) =
          .ok () := by
      rw [hform, hbackend]
      constructor
      · rintro ⟨url, hparse, hhttps | ⟨hscheme, husername, hpassword, hquery, hfragment, hhost⟩⟩
        · exact ⟨url, hparse, .inl hhttps⟩
        · have hdisputed := fun h => hundisputed
            ⟨url, hparse, hscheme, husername, hpassword, hquery, hfragment, h⟩
          cases hhost with
          | inl hv4 =>
            have hnoQuery := none_of_empty hquery fun h => hdisputed (.inr ⟨hv4, .inl h⟩)
            have hnoFragment := none_of_empty hfragment fun h => hdisputed (.inr ⟨hv4, .inr h⟩)
            exact ⟨url, hparse, .inr ⟨hscheme, husername, hpassword, hnoQuery, hnoFragment, hv4⟩⟩
          | inr hv6 => exact absurd (.inl hv6) hdisputed
      · rintro ⟨url, hparse, hhttps | ⟨hscheme, husername, hpassword, hquery, hfragment, hhost⟩⟩
        · exact ⟨url, hparse, .inl hhttps⟩
        · exact ⟨url, hparse, .inr ⟨hscheme, husername, hpassword, by rw [hquery]; rfl,
            by rw [hfragment]; rfl, .inl hhost⟩⟩
    refine ⟨hsaved, fun haccepted => ?_⟩
    exact validProbeUrl_compiles hhosts hlen (haccepted.elim id hsaved.mpr) random

/-- A plain HTTP URL with the path `/probe` on a host. -/
def probeOn (host : String) : UrlRecord :=
  { scheme := "http", username := "", password := "", host := some host, port := none
    path := "/probe", query := none, fragment := none }

/-- The two loopback URLs as a parser reads them. -/
def loopbackUrls (value : String) : Option UrlRecord :=
  if value = "http://127.0.0.1/probe" then some (probeOn "127.0.0.1")
  else if value = "http://[::1]/probe" then some (probeOn "[::1]")
  else none

theorem loopbackUrls_hosts : StandardHosts loopbackUrls := by
  constructor
  · intro value url hparse
    rw [loopbackUrls] at hparse
    split at hparse
    · obtain rfl := Option.some.inj hparse
      decide
    · split at hparse
      · obtain rfl := Option.some.inj hparse
        decide
      · cases hparse
  · intro value url hparse hscheme
    rw [loopbackUrls] at hparse
    split at hparse
    · obtain rfl := Option.some.inj hparse
      rfl
    · split at hparse
      · obtain rfl := Option.some.inj hparse
        rfl
      · cases hparse

/-- All three take the IPv4 loopback URL. -/
theorem probe_validators_agree_iff_v4 :
    ValidatorsAgree loopbackUrls none "http://127.0.0.1/probe" 300 50 := by
  refine (probe_validators_agree_iff loopbackUrls none loopbackUrls_hosts "http://127.0.0.1/probe"
    (by decide) 300 50 (by decide) (by decide)).mpr ?_
  rintro ⟨url, hparse, -, -, -, -, -, hhost⟩
  have hparsed : some (probeOn "127.0.0.1") = some url := hparse
  obtain rfl := Option.some.inj hparsed
  revert hhost
  decide

/-- The form takes the IPv6 loopback URL, and the backend does not save it. -/
theorem probe_on_ipv6_loopback :
    StandardHosts loopbackUrls ∧ Text.len "http://[::1]/probe" ≤ 2048 ∧
      validProbeUrl loopbackUrls "http://[::1]/probe" = true ∧
      validateSelection (parserEnv loopbackUrls none) (.urlTest "http://[::1]/probe" 300 50) =
        .error .invalidInput ∧
      ¬ ValidatorsAgree loopbackUrls none "http://[::1]/probe" 300 50 := by
  have hform : validProbeUrl loopbackUrls "http://[::1]/probe" = true := by decide
  have hbackend : validateSelection (parserEnv loopbackUrls none)
      (.urlTest "http://[::1]/probe" 300 50) = .error .invalidInput := rfl
  refine ⟨loopbackUrls_hosts, by decide, hform, hbackend, fun hagree => ?_⟩
  have hsaved := hagree.saved.mp hform
  rw [hbackend] at hsaved
  cases hsaved

end Veyra.Frontend
