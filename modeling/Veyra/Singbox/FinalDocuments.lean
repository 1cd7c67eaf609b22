import Veyra.Singbox.Closed
import Veyra.Singbox.DocumentWire

/-!
# Veyra.Singbox.FinalDocuments

Which bytes `validate_final` accepts: the texts without repeated members whose
value is the one that an accepted document is written as.  What `finalize`
makes of a compiled plan is among them, and holds the secret it was bound to
(`final_documents_canonical`).
-/

namespace Veyra

open Check DocumentWire

variable {Bytes : Type} {env : CompilerEnv} {json : JsonFormat Bytes} {bytes : Bytes}

/-- `serde_json` on documents. -/
def documentText (json : JsonFormat Bytes) : DocumentText Bytes Json where
  toVec d := some (json.print (document.strict.encode d))
  fromSlice bytes := (json.parse bytes).bind document.strict.readTree
  toValue d := some (document.strict.encode d)
  valueOf bytes := (json.parse bytes).map Json.value

/-- `api_secret_from_config`; whatever fails, the configuration is rejected. -/
def apiSecretFromConfig (env : CompilerEnv) (json : JsonFormat Bytes) (bytes : Bytes) :
    Option String := do
  (validateFinal env (documentText json) bytes).toOption
  let document ← (documentText json).valueOf bytes
  let secret ← document.at? ["experimental", "clash_api", "secret"]
  secret.asStr?

/-- The bytes are the text of a tree without repeated members that has the value of an accepted
document. -/
structure CanonicalText (env : CompilerEnv) (json : JsonFormat Bytes) (bytes : Bytes)
    (d : Document) : Prop where
  accepted : d.validate env true = .ok ()
  text : ∃ t, json.parse bytes = some t ∧ t.distinct = true ∧
    t.value = document.strict.encode d

theorem valueOf_of_parse {t : Json} (h : json.parse bytes = some t) :
    (documentText json).valueOf bytes = some t.value := congrArg (Option.map Json.value) h

/-- **What is accepted.**  Final validation accepts exactly the canonical texts. -/
theorem validateFinal_eq_ok : validateFinal env (documentText json) bytes = .ok () ↔
    ∃ d, CanonicalText env json bytes d := by
  rw [validateFinal, ok_bind]
  constructor
  · rintro ⟨d, hread, h⟩
    obtain ⟨haccepted, h⟩ := ok_seq.mp h
    obtain ⟨received, hreceived, h⟩ := ok_bind.mp h
    obtain ⟨canonical, hcanonical, h⟩ := ok_bind.mp h
    obtain ⟨t, hparse, hread⟩ := Option.bind_eq_some_iff.mp (okOr_eq_ok.mp hread)
    obtain ⟨t', hparse', rfl⟩ := Option.map_eq_some_iff.mp (okOr_eq_ok.mp hreceived)
    obtain rfl := Option.some.inj (hparse.symm.trans hparse')
    obtain rfl := Option.some.inj (okOr_eq_ok.mp hcanonical)
    rw [reject_eq_ok, decide_eq_false_iff_not, ne_eq, not_not] at h
    exact ⟨d, haccepted, t, hparse, Codec.readTree_canonical.mp ⟨hread, h⟩⟩
  · rintro ⟨d, haccepted, t, hparse, hcanonical⟩
    obtain ⟨hread, hvalue⟩ := Codec.readTree_canonical.mpr hcanonical
    have hreceived := valueOf_of_parse hparse
    refine ⟨d, okOr_eq_ok.mpr (Option.bind_eq_some_iff.mpr ⟨t, hparse, hread⟩), ?_⟩
    refine ok_seq.mpr ⟨haccepted, ok_bind.mpr ⟨_, okOr_eq_ok.mpr hreceived, ?_⟩⟩
    refine ok_bind.mpr ⟨_, okOr_eq_ok.mpr rfl, ?_⟩
    rw [reject_eq_ok, decide_eq_false_iff_not, ne_eq, not_not]
    exact hvalue

/-- A document that is accepted is written as a canonical text. -/
theorem canonicalText_print (json : JsonFormat Bytes) {d : Document} (h : d.validate env true = .ok ()) :
    CanonicalText env json (json.print (document.strict.encode d)) d where
  accepted := h
  text := json.parse_print _ (Codec.Plain.isValue (c := document.strict) d)

/-- The last member of a document that is written. -/
theorem lookup_experimental (d : Document) :
    (document.write d).lookup "experimental" = some (experimental.strict.encode d.clashApi) := by
  have hendpoints : ((listed "endpoints" wireGuardEndpoint.strict).write d.endpoints).lookup
      "experimental" = none := by
    rw [listed, RecordCodec.defaulted]
    dsimp only
    split <;> rfl
  change List.lookup "experimental" (_ :: _ :: _ :: _ ::
    ((listed "endpoints" wireGuardEndpoint.strict).write d.endpoints ++ [_, _])) = _
  simp only [List.lookup_append, Json.lookup_cons, hendpoints]
  rfl

/-- The secret stands where it is looked for. -/
theorem encode_secret (d : Document) :
    (document.strict.encode d).at? ["experimental", "clash_api", "secret"] =
      some (.str d.clashApi.secret) := by
  have hexperimental : (document.strict.encode d).get? "experimental" =
      some (experimental.strict.encode d.clashApi) :=
    (Json.get?_object _ _).trans (lookup_experimental d)
  have hclashApi : (experimental.strict.encode d.clashApi).get? "clash_api" =
      some (clashApi.strict.encode d.clashApi) :=
    (Json.get?_object _ _).trans List.lookup_cons_self
  have hsecret : (clashApi.strict.encode d.clashApi).get? "secret" =
      some (.str d.clashApi.secret) := (Json.get?_object _ _).trans rfl
  rw [Json.at?, hexperimental, Option.bind_some, Json.at?, hclashApi, Option.bind_some, Json.at?,
    hsecret]
  rfl

/-- **Spec.**  The secret of a canonical text is that of its document. -/
theorem CanonicalText.apiSecret {d : Document} (h : CanonicalText env json bytes d) :
    apiSecretFromConfig env json bytes = some d.clashApi.secret := by
  have hfinal := validateFinal_eq_ok.mpr ⟨d, h⟩
  obtain ⟨t, hparse, -, hvalue⟩ := h.text
  rw [apiSecretFromConfig, hfinal, valueOf_of_parse hparse, hvalue]
  exact congrArg (·.bind Json.asStr?) (encode_secret d)

/-- A document that is accepted without a secret is accepted with one. -/
theorem validate_bound {d : Document} {secret : String} (h : d.validate env false = .ok ())
    (hsecret : validSecret secret = true) :
    ({ d with clashApi := { d.clashApi with secret } } : Document).validate env true = .ok () := by
  obtain ⟨hstandard, hrest⟩ := ok_seq.mp h
  refine ok_seq.mpr ⟨?_, hrest⟩
  rw [reject_eq_ok, Bool.not_eq_false', Document.isStandard] at hstandard ⊢
  simp only [Bool.and_eq_true, Bool.false_eq_true, if_false, if_true] at hstandard ⊢
  obtain ⟨⟨⟨⟨hfixed, -⟩, hservers⟩, hfinal⟩, hresolver⟩ := hstandard
  exact ⟨⟨⟨⟨hfixed, hsecret⟩, hservers⟩, hfinal⟩, hresolver⟩

/-- **Spec.**  A compiled plan is bound to every secret, as the text of its document. -/
theorem finalize_canonical {intent : RuntimeIntent} {defaultTarget : RouteTarget}
    {plan : SingBoxPlan} (json : JsonFormat Bytes)
    (h : compile env intent defaultTarget = .ok plan) {secret : String}
    (hsecret : validSecret secret = true) :
    ∃ bytes d, plan.finalize env (documentText json) secret = .ok bytes ∧
      CanonicalText env json bytes d ∧ d.clashApi.secret = secret := by
  obtain ⟨-, -, -, -, -, -, -, -, -, -, haccepted⟩ := compile_ok h
  have hbound := validate_bound (Document.validate_eq_ok.mpr haccepted) hsecret
  have hcanonical := canonicalText_print json hbound
  refine ⟨_, _, ok_seq.mpr ⟨hbound, ok_bind.mpr ⟨_, okOr_eq_ok.mpr rfl, ?_⟩⟩, hcanonical, rfl⟩
  exact ok_seq.mpr ⟨validateFinal_eq_ok.mpr ⟨_, hcanonical⟩, rfl⟩

/-- **Final documents are canonical.**  A compiled plan is bound to every secret that the runtime
accepts; its bytes hold that secret and are accepted.  Bytes are accepted exactly if they are a
text without repeated members whose value is the one that some accepted document is written as. -/
theorem final_documents_canonical (env : CompilerEnv) (json : JsonFormat Bytes) :
    (∀ intent defaultTarget plan secret, compile env intent defaultTarget = .ok plan →
      validSecret secret = true → ∃ bytes,
        plan.finalize env (documentText json) secret = .ok bytes ∧
        apiSecretFromConfig env json bytes = some secret ∧
        validateFinal env (documentText json) bytes = .ok ()) ∧
    ∀ bytes, validateFinal env (documentText json) bytes = .ok () ↔
      ∃ d, CanonicalText env json bytes d := by
  refine ⟨fun intent defaultTarget plan secret hplan hsecret => ?_,
    fun bytes => validateFinal_eq_ok⟩
  obtain ⟨bytes, d, hfinal, hcanonical, rfl⟩ := finalize_canonical json hplan hsecret
  exact ⟨bytes, hfinal, hcanonical.apiSecret, validateFinal_eq_ok.mpr ⟨d, hcanonical⟩⟩

/-- A VLESS node over a websocket, with TLS and a uTLS fingerprint. -/
def websocketNode : ProxyNode :=
  { id := ⟨"v"⟩, providerId := ⟨"p"⟩, name := "v", protocol := .vless, server := "example.org"
    port := 443, options := .vless "00000000-0000-0000-0000-000000000001" none
    transport := some (.websocket "/ws" (some "example.org") none none)
    tls := some
      { serverName := some "example.org", allowInsecure := false, alpn := ["h2"]
        utlsFingerprint := some "chrome", realityPublicKey := none, realityShortId := none } }

/-- The nodes of `fencedIntent`, and that one. -/
def boundIntent : RuntimeIntent :=
  { fencedIntent with nodes := websocketNode :: fencedIntent.nodes }

/-- A secret of 64 digits. -/
def boundSecret : String := String.ofList (List.replicate 64 'a')

/-- The document of a plan, bound to that secret. -/
def SingBoxPlan.bound (plan : SingBoxPlan) : Document :=
  { plan.document with clashApi := { plan.document.clashApi with secret := boundSecret } }

theorem compile_boundIntent :
    ∃ plan, compile ⟨fun _ => none⟩ boundIntent (.pool ⟨"a"⟩) = .ok plan :=
  exists_ok (by decide +kernel)

theorem validSecret_boundSecret : validSecret boundSecret = true := by decide +kernel

/-- WireGuard, SOCKS and VLESS over a websocket, read from trees. -/
theorem final_documents_canonical_bound :
    ∃ plan bytes, compile ⟨fun _ => none⟩ boundIntent (.pool ⟨"a"⟩) = .ok plan ∧
      plan.finalize ⟨fun _ => none⟩ (documentText .tree) boundSecret = .ok bytes ∧
      apiSecretFromConfig ⟨fun _ => none⟩ .tree bytes = some boundSecret ∧
      validateFinal ⟨fun _ => none⟩ (documentText .tree) bytes = .ok () := by
  obtain ⟨plan, hplan⟩ := compile_boundIntent
  obtain ⟨bytes, hfinal⟩ := (final_documents_canonical ⟨fun _ => none⟩ .tree).1 boundIntent
    (.pool ⟨"a"⟩) plan boundSecret hplan validSecret_boundSecret
  exact ⟨plan, bytes, hplan, hfinal⟩

/-- The text of a document with the log settings twice, at first with the log enabled. -/
def repeatedLog (d : Document) : Json :=
  .obj (("log", logConfig.strict.encode false) :: Json.ordered (document.write d))

/-- Such a text has the value of an accepted document, and is refused. -/
theorem repeated_log_refused :
    ∃ plan, compile ⟨fun _ => none⟩ boundIntent (.pool ⟨"a"⟩) = .ok plan ∧
      plan.bound.validate ⟨fun _ => none⟩ true = .ok () ∧
      (documentText .tree).valueOf (repeatedLog plan.bound) =
        (documentText .tree).toValue plan.bound ∧
      validateFinal ⟨fun _ => none⟩ (documentText .tree) (repeatedLog plan.bound) =
        .error .invalidFinalConfiguration := by
  obtain ⟨plan, hplan⟩ := compile_boundIntent
  obtain ⟨-, -, -, -, -, -, -, -, -, -, haccepted⟩ := compile_ok hplan
  have hbound := validate_bound (Document.validate_eq_ok.mpr haccepted) validSecret_boundSecret
  have hkey : "log" ∈ (Json.ordered (document.write plan.bound)).map (·.1) :=
    Json.key_mem_ordered List.mem_cons_self
  have hvalue : (repeatedLog plan.bound).value = document.strict.encode plan.bound :=
    (Json.value_repeated hkey).trans (Codec.Plain.isValue (c := document.strict) plan.bound).value
  have hread : (documentText .tree).fromSlice (repeatedLog plan.bound) = none := by
    have hdistinct : (repeatedLog plan.bound).distinct = false := Json.distinct_repeated hkey
    simp only [documentText, JsonFormat.tree, Option.bind_some, Codec.readTree, hdistinct,
      Bool.false_eq_true, if_false]
  refine ⟨plan, hplan, hbound, congrArg some hvalue, ?_⟩
  rw [validateFinal, hread]
  rfl

end Veyra
