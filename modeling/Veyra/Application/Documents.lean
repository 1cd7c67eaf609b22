import Veyra.Application.CommitEffect
import Mathlib.Logic.Relation

/-!
# Veyra.Application.Documents

Stored documents and nodes never drift apart: in every state that committed
subscription operations reach, reading a stored document again gives exactly
the nodes stored next to it.  The invariant is `Agrees`; each of the four
effects of a commit preserves it.
-/

namespace Veyra

open Check

/-! ## The pipeline -/

/-- From the text of a document to the nodes of a provider. -/
def pipeline (env : ContentEnv) (p : ProviderId) (content : String) :
    Except SubscriptionOperationError (List ProxyNode) := do
  let parsed ← parseContent env content
  (normalizeNodes env.text p parsed.nodes).mapError fun _ => .normalizationFailed

/-- The nodes of a content are parsed and then normalized. -/
theorem pipeline_eq_ok {env : ContentEnv} {p : ProviderId} {content : String}
    {nodes : List ProxyNode} : pipeline env p content = .ok nodes ↔
      ∃ parsed, parseContent env content = .ok parsed ∧
        normalizeNodes env.text p parsed.nodes = .ok nodes := by
  rw [pipeline, ok_bind]
  simp only [mapError_eq_ok]

/-- The YAML reader of the editor agrees with the readers of the parser: on a text that
both accept, they see the same external providers and the same nodes, or none. -/
structure DocumentReaders.Agree (readers : DocumentReaders) : Prop where
  external : ∀ text v w, (readers.json text).or (readers.yaml text) = some v →
    readers.yamlValue text = some w →
    hasMembers v "proxy-providers" = hasMembers w "proxy-providers"
  proxies : ∀ text v w, (readers.json text).or (readers.yaml text) = some v →
    readers.yamlValue text = some w → hasElements v "proxies" = hasElements w "proxies"

/-- An edited document that is no provider-only Clash document is none for an import. -/
theorem clashDocumentError_of_syntax {readers : DocumentReaders} (hreaders : readers.Agree)
    {content : String} {format : SubscriptionDocumentFormat} {tree : Json}
    (htree : documentSyntax readers content format = some tree)
    (hclash : isProviderOnlyClash tree = false) : clashDocumentError readers content = none := by
  rw [clashDocumentError]
  cases hread : (readers.json content).or (readers.yaml content) with
  | none => rfl
  | some v =>
    have hv : isProviderOnlyClash v = isProviderOnlyClash tree := by
      cases format with
      | json =>
        have hjson : readers.json content = some tree := htree
        rw [hjson, Option.some_or] at hread
        rw [Option.some.inj hread]
      | yaml =>
        have hyaml : readers.yamlValue content = some tree := htree
        rw [isProviderOnlyClash, isProviderOnlyClash, hreaders.external content v tree hread hyaml,
          hreaders.proxies content v tree hread hyaml]
    simp [hv, hclash]

/-- What the editor accepts, the import accepts with the same nodes. -/
theorem parseContent_of_parseDocumentInput {env : SubscriptionEnv} (hreaders : env.readers.Agree)
    {worker : Option DocumentErrorCode} {input : DocumentSaveInput} {parsed : ParseResult}
    (h : parseDocumentInput env worker input = .ok parsed) :
    parseContent env.toContentEnv input.content = .ok parsed := by
  obtain ⟨-, h⟩ := ok_seq.mp h
  obtain ⟨-, h⟩ := ok_seq.mp h
  obtain ⟨exact, hexact, h⟩ := ok_bind.mp h
  obtain ⟨-, h⟩ := ok_seq.mp h
  cases h
  have hexact := mapError_eq_ok.mp hexact
  obtain ⟨hsize, hexact⟩ := ok_seq.mp hexact
  obtain ⟨hempty, hlarge⟩ := ok_seq.mp hsize
  split at hexact
  · cases hexact
  · obtain ⟨tree, htree, hexact⟩ := ok_bind.mp hexact
    obtain ⟨hclash, hexact⟩ := ok_seq.mp hexact
    obtain ⟨result, hresult, hexact⟩ := ok_bind.mp hexact
    obtain ⟨hformat, hexact⟩ := ok_seq.mp hexact
    obtain ⟨-, hexact⟩ := ok_seq.mp hexact
    cases hexact
    simp only [reject_eq_ok, Bool.or_eq_false_iff, decide_eq_false_iff_not,
      List.isEmpty_eq_false_iff, gt_iff_lt, Nat.not_lt] at hempty hlarge hclash hformat
    exact parseContent_eq_ok.mpr ⟨hempty, hlarge,
      clashDocumentError_of_syntax hreaders (okOr_eq_ok.mp htree) hclash, _,
      mapError_eq_ok.mp hresult, hformat.2, rfl⟩

/-- The nodes next to a document are what the pipeline reads from it. -/
theorem pipeline_of_origin {env : SubscriptionEnv} (hreaders : env.readers.Agree) {p : ProviderId}
    {d : SubscriptionDocument} {nodes : List ProxyNode}
    (h : ContentOrigin env p (some d) nodes) :
    pipeline env.toContentEnv p d.content = .ok nodes := by
  rw [pipeline_eq_ok]
  generalize hdocument : some d = document at h
  cases h with
  | body accepted normalized =>
    rename_i content parsed
    have hcontent : d.content = content := by
      unfold documentForBody at hdocument
      split at hdocument <;> cases hdocument <;> rfl
    rw [hcontent]
    exact ⟨_, accepted, normalized⟩
  | edited accepted normalized =>
    cases hdocument
    exact ⟨_, parseContent_of_parseDocumentInput hreaders accepted, normalized⟩

/-! ## The invariant -/

/-- Every subscription has one provider, whose nodes are those of its document. -/
structure Agrees (env : SubscriptionEnv) (s : AppState) : Prop where
  valid : s.Valid
  sole : ∀ id ∈ s.subscriptions.map (·.id), ∃ p, s.soleProvider id = some p
  documents : ∀ id d p, (id, some d) ∈ s.documentTable → s.soleProvider id = some p →
    pipeline env.toContentEnv p d.content = .ok (s.nodesOf p)

/-- The empty state has no document. -/
theorem agrees_empty (env : SubscriptionEnv) : Agrees env .empty where
  valid := AppState.validate_eq_ok.mp rfl
  sole := by simp [AppState.empty]
  documents := by simp [AppState.empty, AppState.documentTable]

variable {env : SubscriptionEnv} {s t : AppState}

/-! ## The effects preserve the invariant -/

/-- Where the content stays, the document still agrees. -/
theorem Agrees.kept (h : Agrees env s) (ht : t.Valid) (heffect : ContentKept s t) :
    Agrees env t where
  valid := ht
  sole := by
    rw [heffect.frame.subscriptions]
    intro id hid
    obtain ⟨p, hp⟩ := h.sole id hid
    exact ⟨p, (soleProvider_congr heffect.frame.providers).mpr hp⟩
  documents := by
    rw [heffect.documents]
    intro id d p hd hp
    have hnodes : t.nodesOf p = s.nodesOf p := by
      rw [AppState.nodesOf, AppState.nodesOf, heffect.nodes]
    rw [hnodes]
    exact h.documents id d p hd ((soleProvider_congr heffect.frame.providers).mp hp)

/-- New nodes come with the document that they were read from. -/
theorem Agrees.replaced (hreaders : env.readers.Agree) (h : Agrees env s) (ht : t.Valid)
    {id : SubscriptionId} {p : ProviderId} {replacement : List ProxyNode}
    {document : Option SubscriptionDocument}
    (heffect : Swapped env id p replacement document s t)
    (hprovider : ∀ n ∈ replacement, n.providerId = p) : Agrees env t where
  valid := ht
  sole := by
    rw [heffect.frame.subscriptions]
    intro id' hid'
    obtain ⟨q, hq⟩ := h.sole id' hid'
    exact ⟨q, (soleProvider_congr heffect.frame.providers).mpr hq⟩
  documents := by
    rw [heffect.documents]
    intro id' d q hd hq
    have hq := (soleProvider_congr heffect.frame.providers).mp hq
    have hnodes : t.nodesOf q = (s.withNodesOf p replacement).nodesOf q := by
      rw [AppState.nodesOf, AppState.nodesOf, heffect.nodes]
    obtain ⟨⟨old, oldDocument⟩, hold, heq⟩ := List.mem_map.mp hd
    rw [setDocument] at heq
    by_cases hid : old = id
    · -- the replaced subscription: its document and its nodes have one origin
      rw [if_pos hid] at heq
      cases heq
      have hpq : q = p := Option.some.inj (hq.symm.trans heffect.sole)
      rw [hnodes, hpq, nodesOf_withNodesOf_self hprovider]
      exact pipeline_of_origin hreaders heffect.origin
    · rw [if_neg hid] at heq
      cases heq
      have hpq : q ≠ p := by
        intro hpq
        exact hid (soleProvider_inj h.valid (hpq ▸ hq) heffect.sole)
      rw [hnodes, nodesOf_withNodesOf_of_ne hprovider hpq]
      exact h.documents _ d q hold hq

/-- An import keeps the document that its nodes were read from. -/
theorem Agrees.imported (hreaders : env.readers.Agree) (h : Agrees env s) (ht : t.Valid)
    {sub : Subscription} {provider : Provider} {pool : NodePool} {replacement : List ProxyNode}
    (heffect : Imported env sub provider pool replacement s t)
    (hprovider : ∀ n ∈ replacement, n.providerId = provider.id) : Agrees env t where
  valid := ht
  sole := by
    intro id hid
    by_cases hnew : id = sub.id
    · exact ⟨provider.id, hnew ▸ heffect.soleProvider_new h.valid ht⟩
    · rw [heffect.subscriptions, List.map_append, List.mem_append] at hid
      have hold : id ∈ s.subscriptions.map (·.id) := by simpa [hnew] using hid
      obtain ⟨p, hp⟩ := h.sole id hold
      exact ⟨p, (heffect.soleProvider_old hnew).trans hp⟩
  documents := by
    intro id d p hd hp
    have hnodes : t.nodesOf p = (s.withNodesOf provider.id replacement).nodesOf p := by
      rw [AppState.nodesOf, AppState.nodesOf, heffect.nodes]
    rw [AppState.documentTable, heffect.subscriptions, List.map_append, List.mem_append] at hd
    cases hd with
    | inl hd =>
      obtain ⟨old, hold, heq⟩ := List.mem_map.mp hd
      obtain ⟨hid, -⟩ := Prod.mk.inj heq
      have hid : id ≠ sub.id := by
        rw [← hid]
        exact heffect.new ht old hold
      rw [heffect.soleProvider_old hid] at hp
      obtain ⟨r, hr, hrid, -⟩ := soleProvider_mem hp
      have hpne : p ≠ provider.id := hrid ▸ heffect.fresh r hr
      rw [hnodes, nodesOf_withNodesOf_of_ne hprovider hpne]
      exact h.documents id d p hd hp
    | inr hd =>
      simp only [List.map_cons, List.map_nil, List.mem_singleton, Prod.mk.injEq] at hd
      have hpeq : p = provider.id := by
        have hsole := heffect.soleProvider_new h.valid ht
        rw [hd.1, hsole] at hp
        exact (Option.some.inj hp).symm
      rw [hnodes, hpeq, nodesOf_withNodesOf_self hprovider]
      exact pipeline_of_origin hreaders (hd.2 ▸ heffect.origin)

/-- A deletion takes both away. -/
theorem Agrees.deleted (h : Agrees env s) (ht : t.Valid) {id : SubscriptionId}
    (heffect : Deleted id s t) : Agrees env t where
  valid := ht
  sole := by
    intro id' hid'
    rw [heffect.subscriptions] at hid'
    obtain ⟨sub, hsub, rfl⟩ := List.mem_map.mp hid'
    obtain ⟨hmem, hne⟩ := List.mem_filter.mp hsub
    rw [heffect.soleProvider h.valid (by simpa using hne)]
    exact h.sole _ (List.mem_map_of_mem hmem)
  documents := by
    intro id' d p hd hp
    rw [AppState.documentTable, heffect.subscriptions] at hd
    obtain ⟨sub, hsub, heq⟩ := List.mem_map.mp hd
    obtain ⟨hmem, hne⟩ := List.mem_filter.mp hsub
    obtain ⟨hid, hdocument⟩ := Prod.mk.inj heq
    have hne : id' ≠ id := by
      rw [← hid]
      simpa using hne
    rw [heffect.soleProvider h.valid hne] at hp
    obtain ⟨r, hr, hrid, howner⟩ := soleProvider_mem hp
    have hkept : p ∉ (s.providersOf id).map (·.id) :=
      hrid ▸ providerId_not_mem h.valid hr (howner.symm ▸ hne)
    have hnodes : t.nodesOf p = s.nodesOf p := by
      rw [AppState.nodesOf, heffect.nodes, List.filter_filter, AppState.nodesOf]
      apply List.filter_congr
      intro n _
      by_cases hn : n.providerId = p
      · simp only [hn, hkept, decide_true, not_false_eq_true, Bool.and_self]
      · simp [hn]
    rw [hnodes]
    exact h.documents id' d p (List.mem_map.mpr ⟨sub, hmem, by rw [hid, hdocument]⟩) hp

/-! ## Runs -/

/-- **Step.**  Every save leaves documents that agree with their nodes. -/
theorem Agrees.step (hreaders : env.readers.Agree) {current : Option AppState}
    (h : Agrees env (current.getD .empty)) (hcurrent : ∀ s, current = some s → Agrees env s)
    {op : SubscriptionOperation} {after : AppState}
    (hstep : SubscriptionCommit env op current after) : Agrees env after := by
  obtain ⟨hvalid, heffect⟩ := hstep.effect fun s hs => (hcurrent s hs).valid
  cases heffect with
  | imported content effect => exact h.imported hreaders hvalid effect effect.origin.provider
  | kept content effect => exact h.kept hvalid effect
  | replaced content normalized effect => exact h.replaced hreaders hvalid effect.toSwapped effect.origin.provider
  | deleted content effect => exact h.deleted hvalid effect

/-- One committed subscription operation; `none` is the state before the first save. -/
def CommitStep (env : SubscriptionEnv) (current next : Option AppState) : Prop :=
  ∃ op after, SubscriptionCommit env op current after ∧ next = some after

/-- The states that committed operations reach from a first start or from an empty file. -/
def Reachable (env : SubscriptionEnv) (s : AppState) : Prop :=
  ∃ start : Option AppState, start.getD .empty = .empty ∧
    Relation.ReflTransGen (CommitStep env) start (some s)

/-- **Run.**  So they agree in every state that is reached. -/
theorem agrees_of_run (hreaders : env.readers.Agree) {start current : Option AppState}
    (hstart : start.getD .empty = .empty)
    (hrun : Relation.ReflTransGen (CommitStep env) start current) :
    Agrees env (current.getD .empty) := by
  induction hrun with
  | refl => rw [hstart]; exact agrees_empty env
  | tail _ hstep ih =>
    obtain ⟨op, after, hcommit, hnext⟩ := hstep
    rw [hnext]
    refine ih.step hreaders (fun s hs => ?_) hcommit
    rw [hs] at ih
    exact ih

/-- **Documents and nodes.**  In every reachable state, reading the document of a
subscription again gives exactly the nodes of its provider, in their order. -/
theorem documents_never_drift (env : SubscriptionEnv) (hreaders : env.readers.Agree)
    (s : AppState) (hreach : Reachable env s) :
    ∀ sub ∈ s.subscriptions, ∀ d, sub.document = some d → ∃ p, s.soleProvider sub.id = some p ∧
      pipeline env.toContentEnv p d.content = .ok (s.nodesOf p) := by
  obtain ⟨start, hstart, hrun⟩ := hreach
  have hagrees : Agrees env s := agrees_of_run hreaders hstart hrun
  intro sub hsub d hd
  obtain ⟨p, hp⟩ := hagrees.sole sub.id (List.mem_map_of_mem hsub)
  exact ⟨p, hp, hagrees.documents sub.id d p (List.mem_map.mpr ⟨sub, hsub, by rw [hd]⟩) hp⟩

/-! ### A first import -/

/-- A JSON body with one node. -/
def socksBody : String :=
  "\x7b\"proxies\":[\x7b\"type\":\"socks\",\"name\":\"office\",\"server\":\"example.com\",\"port\":1080\x7d]\x7d"

def socksTree : Json := .obj [("proxies", .arr [.obj [("name", .str "office"),
  ("port", .num (.posInt 1080)), ("server", .str "example.com"), ("type", .str "socks")]])]

/-- What any reader makes of `socksBody`. -/
def readSocks (content : String) : Option Json :=
  if content = socksBody then some socksTree else none

/-- An environment for `socksBody`; the texts are those of its one connection, with and
without the version tag. -/
def socksEnv : SubscriptionEnv where
  readers := ⟨readSocks, readSocks, readSocks⟩
  text := ⟨fun
    | .arr (.str "veyra-node-v3" :: _) => "[\"veyra-node-v3\",\"socks\",\"example.com\",1080,\x7b\"kind\":\"socks\",\"version\":5,\"username\":null,\"password\":null\x7d,\"tcp\",null]"
    | _ => "[\"socks\",\"example.com\",1080,\x7b\"kind\":\"socks\",\"version\":5,\"username\":null,\"password\":null\x7d,\"tcp\",null]"⟩
  validateSourceUrl := fun _ => false
  revisionFor := fun _ _ => ""

/-- The readers of the example agree. -/
theorem socksEnv_agree : socksEnv.readers.Agree := by
  have hsame : ∀ text v w, (readSocks text).or (readSocks text) = some v →
      readSocks text = some w → v = w := by
    intro text v w hv hw
    rw [hw, Option.some_or] at hv
    exact (Option.some.inj hv).symm
  constructor
  · intro text v w hv hw
    rw [hsame text v w hv hw]
  · intro text v w hv hw
    rw [hsame text v w hv hw]

def socksDraft : ProxyNodeDraft :=
  { name := "office", protocol := .socks, server := "example.com", port := 1080
    options := .socks 5 none none, transport := some .tcp, tls := none }

def socksImport : ImportCommit :=
  { name := "office", description := "", source := .manual, remoteRequest := none
    updatePolicy := .manual
    parsed := { format := .json, nodes := [socksDraft], skipped := [] }
    document := some { format := .json, content := socksBody, localOverride := false }
    httpMetadata := none, expectedInitiallyEmpty := none }

def socksState : AppState :=
  { importCandidate socksImport [1] 1000 .empty with
    nodes := [ProxyNode.ofDraft socksEnv.text ⟨"provider-01"⟩ socksDraft] }

/-- The node of `socksDraft` under an identity. -/
def socksNodeOf (providerId id : String) : ProxyNode :=
  { id := ⟨id⟩, providerId := ⟨providerId⟩, name := "office", protocol := .socks
    server := "example.com", port := 1080, options := .socks 5 none none
    transport := some .tcp, tls := none }

/-- The identity of the first node. -/
theorem ofDraft_socks : ProxyNode.ofDraft socksEnv.text ⟨"provider-01"⟩ socksDraft =
    socksNodeOf "provider-01" "node-00be45e343119ef4" := by decide +kernel

theorem socksState_eq : socksState = { importCandidate socksImport [1] 1000 .empty with
    nodes := [socksNodeOf "provider-01" "node-00be45e343119ef4"] } := by
  rw [socksState, ofDraft_socks]

/-- The node of the example. -/
theorem normalizeNodes_socks (p : ProviderId) :
    normalizeNodes socksEnv.text p [socksDraft] = .ok [.ofDraft socksEnv.text p socksDraft] :=
  normalizeNodes_single (by decide) (by decide) (by decide)

theorem socksBody_parsed : parseContent socksEnv.toContentEnv socksBody =
    .ok { format := .json, nodes := [socksDraft], skipped := [] } := by decide +kernel

/-- The import of the example is accepted. -/
theorem socksImport_prepared :
    prepareManualImport socksEnv " office " "" socksBody = .ok socksImport := by
  have hname : validateName " office " = .ok "office" := by decide +kernel
  have hdescription : validateDescription "" = .ok "" := by decide +kernel
  exact ok_bind.mpr ⟨_, hname, ok_bind.mpr ⟨_, hdescription, ok_bind.mpr
    ⟨_, socksBody_parsed, rfl⟩⟩⟩

/-- The import of the example is saved. -/
theorem socksImport_committed :
    commitImport socksEnv.text socksImport [1] 1000 none = .ok socksState := by
  have hid : identityOf "provider" [1] = "provider-01" := by decide
  have hvalid : socksState.validate = .ok () := by
    rw [socksState_eq]
    decide +kernel
  refine commitImport_of rfl rfl rfl ?_ hvalid
  rw [hid]
  exact normalizeNodes_socks _

/-- The state of the example is reached. -/
theorem reachable_socksState : Reachable socksEnv socksState :=
  ⟨none, rfl, .single ⟨_, _, .importManual socksImport_prepared socksImport_committed, rfl⟩⟩

/-- The nodes of the imported document are those that are stored. -/
theorem documents_never_drift_socks : ∃ sub ∈ socksState.subscriptions, ∃ d,
    sub.document = some d ∧ d.content = socksBody ∧ ∃ p, socksState.soleProvider sub.id = some p ∧
      pipeline socksEnv.toContentEnv p d.content = .ok (socksState.nodesOf p) := by
  have hdrift := documents_never_drift socksEnv socksEnv_agree socksState reachable_socksState
  exact ⟨_, List.mem_singleton_self _, _, rfl, rfl, hdrift _ (List.mem_singleton_self _) _ rfl⟩

end Veyra
