import Veyra.Application.Documents
import Veyra.Application.SubscriptionOrigins

/-!
# Veyra.Application.UnchangedSave

Saving a document as it is stored.  The nodes that are read again are the nodes that are
there, so the save changes nothing about the subscription; but a replacement puts the nodes
of its provider last, which moves them unless they already were.
-/

namespace Veyra

open Check

variable {env : SubscriptionEnv} {s t : AppState}

/-! ## The skipped count of a stored document -/

/-- The skipped count next to a document is that of its parse. -/
def Subscription.Counted (env : SubscriptionEnv) (sub : Subscription) : Prop :=
  ∀ d, sub.document = some d → ∃ parsed, parseSubscription env.readers d.content = .ok parsed ∧
    sub.skippedUnsupportedNodes = UInt32.ofNat parsed.skipped.length

def CountsSkipped (env : SubscriptionEnv) (s : AppState) : Prop :=
  ∀ sub ∈ s.subscriptions, sub.Counted env

/-- The count depends on the subscriptions alone. -/
theorem CountsSkipped.congr (h : CountsSkipped env s) (heq : t.subscriptions = s.subscriptions) :
    CountsSkipped env t := by
  rw [CountsSkipped, heq]
  exact h

/-- A subscription that keeps its document and its count. -/
theorem Subscription.Counted.keep {sub other : Subscription} (h : sub.Counted env)
    (hdocument : other.document = sub.document)
    (hskipped : other.skippedUnsupportedNodes = sub.skippedUnsupportedNodes) :
    other.Counted env := by
  intro d hd
  rw [hskipped]
  exact h d (hdocument ▸ hd)

/-- A modification that counts right. -/
theorem CountsSkipped.modify (h : CountsSkipped env s) {id : String}
    {f : Subscription → Subscription} (hf : ∀ sub, sub.Counted env → (f sub).Counted env) :
    CountsSkipped env (s.modifySubscription id f) := by
  intro sub hsub
  cases mem_of_mem_modifyFirst hsub with
  | inl hmem => exact h sub hmem
  | inr hchanged =>
    obtain ⟨old, hold, -, heq⟩ := hchanged
    exact heq ▸ hf old (h old hold)

/-- A replacement leaves the subscriptions. -/
theorem CountsSkipped.replacement (h : CountsSkipped env s) {text : JsonText} {p : ProviderId}
    {parsed : ParseResult} {changed : Bool}
    (hreplace : applyProviderReplacement text s p parsed = .ok (t, changed)) :
    CountsSkipped env t := by
  obtain ⟨replacement, -, rfl, -, -⟩ := applyProviderReplacement_ok hreplace
  exact h.congr rfl

/-- So does raising the generation. -/
theorem CountsSkipped.raise (h : CountsSkipped env s) {condition : Bool}
    (hraise : raiseGeneration condition s = .ok t) : CountsSkipped env t := by
  obtain ⟨hkeeps, -, -⟩ := raiseGeneration_ok hraise
  exact h.congr (by rw [hkeeps])

/-- A body that was accepted is kept with the count of its parse. -/
theorem counted_body {content : String} {parsed : ParseResult}
    (hparsed : parseContent env.toContentEnv content = .ok parsed) {sub : Subscription}
    (hdocument : sub.document = documentForBody content parsed.format)
    (hskipped : sub.skippedUnsupportedNodes = UInt32.ofNat parsed.skipped.length) :
    sub.Counted env := by
  intro d hd
  have hcontent : d.content = content := by
    rw [hdocument] at hd
    unfold documentForBody at hd
    split at hd <;> cases hd <;> rfl
  obtain ⟨-, -, -, whole, hwhole, -, rfl⟩ := parseContent_eq_ok.mp hparsed
  exact ⟨whole, by rw [hcontent]; exact hwhole, hskipped⟩

/-- What the editor accepts has nothing skipped. -/
theorem parseDocumentInput_skipped {worker : Option DocumentErrorCode} {input : DocumentSaveInput}
    {parsed : ParseResult} (h : parseDocumentInput env worker input = .ok parsed) :
    ∃ whole, parseSubscription env.readers input.content = .ok whole ∧ whole.skipped = [] ∧
      parsed = deduplicateParsedNodes env.text whole := by
  obtain ⟨-, h⟩ := ok_seq.mp h
  obtain ⟨-, h⟩ := ok_seq.mp h
  obtain ⟨whole, hexact, h⟩ := ok_bind.mp h
  obtain ⟨-, h⟩ := ok_seq.mp h
  cases h
  obtain ⟨-, hexact⟩ := ok_seq.mp (mapError_eq_ok.mp hexact)
  split at hexact
  · cases hexact
  · obtain ⟨tree, -, hexact⟩ := ok_bind.mp hexact
    obtain ⟨-, hexact⟩ := ok_seq.mp hexact
    obtain ⟨result, hresult, hexact⟩ := ok_bind.mp hexact
    obtain ⟨-, hexact⟩ := ok_seq.mp hexact
    obtain ⟨hskipped, hexact⟩ := ok_seq.mp hexact
    cases hexact
    exact ⟨_, mapError_eq_ok.mp hresult, by simpa using hskipped, rfl⟩

/-! ## Every commit keeps the count -/

/-- An import counts what it skipped. -/
theorem CountsSkipped.imported {current : Option AppState} (h : CountsSkipped env (current.getD .empty))
    {input : ImportCommit} {identity : List UInt8} {now : UInt64}
    (hcommit : commitImport env.text input identity now current = .ok t)
    (hcounted : (importedSubscription input identity now).Counted env) : CountsSkipped env t := by
  intro sub hsub
  rw [commitImport_subscriptions hcommit, List.mem_append, List.mem_singleton] at hsub
  cases hsub with
  | inl hold => exact h sub hold
  | inr hnew => exact hnew ▸ hcounted

/-- New content counts what it skipped. -/
theorem CountsSkipped.updateContent (h : CountsSkipped env s) {id : String}
    {snapshot : UpdateSnapshot} {fetched : FetchResult} {parsed : Option ParseResult}
    {changed : Bool} (hread : updateParsed env.toContentEnv fetched = .ok parsed)
    (hcontent : Veyra.updateContent env.text id snapshot fetched parsed s = .ok (t, changed)) :
    CountsSkipped env t := by
  cases updateContent_cases hcontent with
  | replaced hreplace _ _ =>
    obtain ⟨_, hresult, hparsed⟩ := map_eq_ok.mp hread
    cases hparsed
    apply (h.replacement hreplace).modify
    intro sub _
    exact counted_body hresult rfl rfl
  | kept => exact h.modify fun sub hsub => hsub.keep rfl rfl

/-- So does the content of an edit. -/
theorem CountsSkipped.editContent (h : CountsSkipped env s) {id : String} {p : ProviderId}
    {replacement : Option EditReplacement} {changed : Bool}
    (hread : ∀ r, replacement = some r → ∃ fetched now,
      editReplacement env.toContentEnv fetched now = .ok r)
    (hcontent : Veyra.editContent env.text id p s replacement = .ok (t, changed)) :
    CountsSkipped env t := by
  cases replacement with
  | none =>
    cases hcontent
    exact h
  | some replacement =>
    obtain ⟨fetched, now, hreplacement⟩ := hread replacement rfl
    obtain ⟨candidate, hreplace, hraised⟩ := editContent_cases hcontent
    refine CountsSkipped.raise ?_ hraised
    apply (h.replacement hreplace).modify
    intro sub _
    cases fetched with
    | notModified metadata profile validatorsMatchSource => cases hreplacement
    | modified body metadata profile validatorsMatchSource =>
      obtain ⟨parsed, hparsed, hreplacement⟩ := ok_bind.mp hreplacement
      cases hreplacement
      exact counted_body hparsed rfl rfl

/-- An edit changes neither the document nor the count of its subscription. -/
theorem prepareEdit_counted {input : EditSubscription} {edited : Subscription} {urlChanged : Bool}
    (h : prepareEdit env input s = .ok (edited, urlChanged)) (hs : CountsSkipped env s) :
    edited.Counted env := by
  obtain ⟨old, hold, h⟩ := ok_bind.mp h
  have hcounted : old.Counted env := hs old (List.mem_of_find?_eq_some (okOr_eq_ok.mp hold))
  obtain ⟨name, -, h⟩ := ok_bind.mp h
  obtain ⟨description, -, h⟩ := ok_bind.mp h
  split at h
  · obtain ⟨-, h⟩ := ok_seq.mp h
    cases h
    exact hcounted.keep rfl rfl
  · obtain ⟨-, h⟩ := ok_seq.mp h
    obtain ⟨remote, -, h⟩ := ok_bind.mp h
    obtain ⟨patched, -, h⟩ := ok_bind.mp h
    obtain ⟨policy, -, h⟩ := ok_bind.mp h
    cases h
    exact hcounted.keep rfl rfl

/-- The replacement of an edit was read from its fetch. -/
theorem EditReplaces.read {baseline : AppState} {id : String} {urlChanged : Bool}
    {fetched : Option (FetchResult × UInt64)} {replacement : Option EditReplacement}
    (h : EditReplaces env baseline id urlChanged fetched replacement) :
    ∀ r, replacement = some r → ∃ fetched now,
      editReplacement env.toContentEnv fetched now = .ok r := by
  intro r hr
  subst hr
  match fetched, h with
  | some (fetched, now), ⟨_, _, hread⟩ => exact ⟨fetched, now, hread⟩

/-- **Step.**  Every commit of a subscription operation keeps the counts. -/
theorem CountsSkipped.step {op : SubscriptionOperation} {current : Option AppState}
    (h : CountsSkipped env (current.getD .empty)) (hstep : SubscriptionCommit env op current t) :
    CountsSkipped env t := by
  cases hstep with
  | importManual prepared committed =>
    obtain ⟨name, -, prepared⟩ := ok_bind.mp prepared
    obtain ⟨description, -, prepared⟩ := ok_bind.mp prepared
    obtain ⟨parsed, hparsed, prepared⟩ := ok_bind.mp prepared
    cases prepared
    exact h.imported committed (counted_body hparsed rfl rfl)
  | importRemote prepared committed =>
    obtain ⟨⟨name, description, request, policy⟩, -, prepared⟩ := ok_bind.mp prepared
    simp only at prepared
    split at prepared
    · cases prepared
    · obtain ⟨parsed, hparsed, prepared⟩ := ok_bind.mp prepared
      cases prepared
      exact h.imported committed (counted_body hparsed rfl rfl)
  | update captured answered read usable committed =>
    obtain ⟨content, -, hcontent, hraised, -⟩ := commitUpdate_cases committed
    refine CountsSkipped.raise ((h.updateContent read hcontent).modify ?_) hraised
    exact fun sub hsub => hsub.keep rfl rfl
  | failedAttempt captured committed =>
    obtain ⟨rfl, -⟩ := commitFailedAttempt_cases committed
    exact h.modify fun _ hsub => hsub.keep rfl rfl
  | edit prepared replaces committed =>
    obtain ⟨provider, rfl, -, hcontent, -⟩ := commitEdit_cases committed
    have hedited := prepareEdit_counted prepared h
    refine CountsSkipped.editContent (s := editCandidate _ _ _ _) ?_ replaces.read hcontent
    exact (h.modify fun _ _ => hedited).congr rfl
  | document prepares committed =>
    obtain ⟨hbase, rfl⟩ := commitPreparedDocument_ok committed
    rw [← hbase.trans (prepareDocumentSave_before prepares)] at prepares
    obtain ⟨_, _, existing, _, _, _, _, hread, -, -, -, -, hreplace, hraised, -, rfl⟩ :=
      prepareDocumentSave_cases prepares
    obtain ⟨whole, hwhole, hskipped, -⟩ := parseDocumentInput_skipped hread
    refine CountsSkipped.raise (CountsSkipped.replacement (h.modify ?_) hreplace) hraised
    intro sub _ d hd
    cases hd
    exact ⟨whole, hwhole, by rw [hskipped]; rfl⟩
  | delete committed =>
    obtain ⟨_, raised, -, -, hraised, rfl, -⟩ := commitDelete_cases committed
    obtain ⟨hkeeps, -, -⟩ := raiseGeneration_ok hraised
    intro sub hsub
    have hmem : sub ∈ raised.subscriptions := by
      split at hsub <;> exact hsub
    rw [hkeeps] at hmem
    exact h sub (List.mem_filter.mp hmem).1

/-! ## Runs -/

/-- What other saves than those of a subscription operation leave alone. -/
theorem Agrees.congr (h : Agrees env s) (ht : t.Valid)
    (hsubscriptions : t.subscriptions = s.subscriptions) (hproviders : t.providers = s.providers)
    (hnodes : t.nodes = s.nodes) : Agrees env t := by
  have hsole (id : SubscriptionId) : t.soleProvider id = s.soleProvider id := by
    rw [AppState.soleProvider, AppState.providersOf, hproviders]
    rfl
  refine ⟨ht, ?_, ?_⟩
  · rw [hsubscriptions]
    intro id hid
    rw [hsole]
    exact h.sole id hid
  · rw [AppState.documentTable, hsubscriptions]
    intro id d p hd hp
    rw [AppState.nodesOf, hnodes]
    exact h.documents id d p hd (hsole id ▸ hp)

/-- **Run.**  Whatever the managers save, stored documents account for the nodes and the
count next to them. -/
theorem agrees_of_managerRun (hreaders : env.readers.Agree) {start current : Option AppState}
    (hstart : start.getD .empty = .empty)
    (hrun : Relation.ReflTransGen (ManagerStep env) start current) :
    Agrees env (current.getD .empty) ∧ CountsSkipped env (current.getD .empty) := by
  induction hrun with
  | refl =>
    rw [hstart]
    exact ⟨agrees_empty env, by intro sub hsub; cases hsub⟩
  | @tail current _ _ hstep ih =>
    obtain ⟨hagrees, hcounts⟩ := ih
    cases hstep with
    | operation commit =>
      rename_i op after
      cases op with
      | subscription op =>
        have hcommit : SubscriptionCommit env op current after := commit
        refine ⟨hagrees.step hreaders (fun s hs => ?_) hcommit, hcounts.step hcommit⟩
        rw [hs] at hagrees
        exact hagrees
      | mutation routing request =>
        have hcommit : ProxyRouting.MutationCommit routing request (current.getD .empty) after :=
          commit
        obtain ⟨edited, outcome, happlied, hkeeps⟩ := hcommit.applied
        have hcontent := ProxyRouting.applyMutation_ok happlied
        have hvalid : after.Valid := by
          obtain ⟨committed⟩ := hcommit
          exact (ProxyRouting.mutate_save committed).2.1
        have hsame := hcommit.subscriptions
        refine ⟨hagrees.congr hvalid hsame ?_ ?_, hcounts.congr hsame⟩
        · simp only [Option.getD_some]
          rw [hkeeps]
          exact hcontent.providers
        · simp only [Option.getD_some]
          rw [hkeeps]
          exact hcontent.nodes
    | activation commit =>
      have hsame := commit.subscriptions
      have hvalid := commit.valid
      obtain ⟨planned, committed⟩ := commit
      obtain ⟨hbefore, rfl⟩ := commitActivation_ok committed
      obtain ⟨hexpected, hcandidate, -, -⟩ := planActivation_ok planned
      obtain ⟨-, hkeeps⟩ := activationCandidate_ok hcandidate
      refine ⟨hagrees.congr hvalid hsame ?_ ?_, hcounts.congr hsame⟩
      · simp only [Option.getD_some]
        rw [hkeeps, hbefore, hexpected]
      · simp only [Option.getD_some]
        rw [hkeeps, hbefore, hexpected]

/-! ## Where the nodes are -/

/-- No node of another provider comes after one of this provider. -/
def NodesLast (s : AppState) (p : ProviderId) : Prop :=
  s.nodes.Pairwise fun a b => a.providerId = p → b.providerId = p

instance (s : AppState) (p : ProviderId) : Decidable (NodesLast s p) :=
  inferInstanceAs (Decidable (s.nodes.Pairwise fun a b => a.providerId = p → b.providerId = p))

/-- Putting the elements with a property last changes nothing exactly when they are. -/
theorem filter_append_filter_eq_iff {α : Type} (q : α → Bool) (xs : List α) :
    xs.filter (fun a => !q a) ++ xs.filter q = xs ↔
      xs.Pairwise fun a b => q a = true → q b = true := by
  induction xs with
  | nil => simp
  | cons x xs ih =>
    rw [List.pairwise_cons]
    cases hx : q x with
    | false =>
      rw [List.filter_cons_of_pos (by simp [hx]), List.filter_cons_of_neg (by simp [hx]),
        List.cons_append, List.cons_inj_right, ih]
      simp
    | true =>
      rw [List.filter_cons_of_neg (by simp [hx]), List.filter_cons_of_pos hx]
      simp only [forall_const]
      constructor
      · intro heq
        -- `x` comes first, so nothing without the property does
        have hnone : xs.filter (fun a => !q a) = [] := by
          cases hfirst : xs.filter (fun a => !q a) with
          | nil => rfl
          | cons y ys =>
            rw [hfirst, List.cons_append, List.cons.injEq] at heq
            have hy : y ∈ xs.filter (fun a => !q a) := by rw [hfirst]; exact List.mem_cons_self
            rw [heq.1] at hy
            simpa [hx] using (List.mem_filter.mp hy).2
        have hall : ∀ a ∈ xs, q a = true := by
          intro a ha
          simpa using List.filter_eq_nil_iff.mp hnone a ha
        exact ⟨hall, List.pairwise_iff_forall_sublist.mpr
          fun hsub _ => hall _ (hsub.subset (by simp))⟩
      · intro ⟨hall, _⟩
        have hnone : xs.filter (fun a => !q a) = [] := by
          rw [List.filter_eq_nil_iff]
          intro a ha
          simp [hall a ha]
        rw [hnone, List.nil_append, List.filter_eq_self.mpr hall]

/-- Putting nodes back changes nothing if they stand last. -/
theorem nodes_withNodesOf_iff (s : AppState) (p : ProviderId) :
    (s.withNodesOf p (s.nodesOf p)).nodes = s.nodes ↔ NodesLast s p := by
  have h := filter_append_filter_eq_iff (fun n : ProxyNode => decide (n.providerId = p)) s.nodes
  simp only [decide_eq_true_eq] at h
  rw [NodesLast, ← h, AppState.withNodesOf, AppState.nodesOf]
  simp

/-- The same for the state as a whole. -/
theorem withNodesOf_eq_iff (s : AppState) (p : ProviderId) :
    s.withNodesOf p (s.nodesOf p) = s ↔ NodesLast s p := by
  rw [← nodes_withNodesOf_iff]
  constructor
  · exact congrArg AppState.nodes
  · intro h
    rw [AppState.withNodesOf] at h ⊢
    simp only at h
    rw [h]

/-! ## The save -/

/-- A modification that changes nothing. -/
theorem modifyFirst_eq_self {α : Type} {p : α → Bool} {f : α → α} {xs : List α}
    (h : ∀ x, xs.find? p = some x → f x = x) : modifyFirst p f xs = xs := by
  induction xs with
  | nil => rfl
  | cons x xs ih =>
    rw [modifyFirst]
    split
    · next hp => rw [h x (by rw [List.find?_cons, hp])]
    · next hp =>
      have hfalse : p x = false := by simpa using hp
      rw [ih fun y hy => h y (by rw [List.find?_cons, hfalse]; exact hy)]

/-- The request that saves a document as it is stored. -/
def unchangedInput (env : SubscriptionEnv) (sub : Subscription) (d : SubscriptionDocument) :
    DocumentSaveInput :=
  { id := sub.id.val, format := d.format, content := d.content
    expectedRevision := env.revisionFor d.format d.content }

/-- The document, its flag and its metadata are put back as they are. -/
theorem documentCandidate_unchanged {sub : Subscription} {d : SubscriptionDocument}
    (hsub : s.subscription? sub.id.val = some sub) (hd : sub.document = some d)
    (hskipped : sub.skippedUnsupportedNodes = 0) :
    documentCandidate env (unchangedInput env sub d) d s = s := by
  have hsame : documentChanged env (unchangedInput env sub d) = false := by
    simp [documentChanged, unchangedInput]
  have hmodify : (documentCandidate env (unchangedInput env sub d) d s).subscriptions =
      s.subscriptions := by
    apply modifyFirst_eq_self
    intro other hother
    have hfound : some other = some sub := hother.symm.trans hsub
    cases hfound
    rw [hsame]
    simp only [Subscription.withDocument, unchangedInput, Bool.false_and, Bool.false_or,
      Bool.false_eq_true, if_false]
    obtain ⟨⟩ := sub
    simp only at hd hskipped
    rw [hd, hskipped]
  rw [documentCandidate, AppState.modifySubscription] at hmodify ⊢
  simp only at hmodify
  rw [hmodify]

/-- **Spec.**  What a save of the stored document prepares: the same state, with the nodes
of the subscription moved last. -/
theorem unchangedSave_ok (hagrees : Agrees env s) (hreaders : env.readers.Agree)
    (hcounts : CountsSkipped env s) {sub : Subscription} {d : SubscriptionDocument}
    (hsub : sub ∈ s.subscriptions) (hd : sub.document = some d) {worker : Option DocumentErrorCode}
    {prepared : PreparedDocumentSave}
    (h : prepareDocumentSave env worker (unchangedInput env sub d) s = .ok prepared) :
    ∃ p, s.soleProvider sub.id = some p ∧
      prepared = { before := s, next := s.withNodesOf p (s.nodesOf p)
                   subscriptionId := sub.id.val
                   documentRevision := env.revisionFor d.format d.content
                   requiresApply := false
                   stateChanged := s ≠ s.withNodesOf p (s.nodesOf p) } := by
  obtain ⟨parsed, found, existing, p, candidate, nodesChanged, next, hread, hfound, hexisting, -,
    hp, hreplace, hraised, hvalid, rfl⟩ := prepareDocumentSave_cases h
  have hid := List.find?_some hfound
  have hsame : found = sub :=
    List.inj_on_of_nodup_map hagrees.valid.nodup_subscriptions
      (List.mem_of_find?_eq_some hfound) hsub (of_decide_eq_true hid)
  subst hsame
  have hsame : existing = d := Option.some.inj (hexisting.symm.trans hd)
  subst hsame
  -- nothing of the document was skipped, and its nodes are those next to it
  obtain ⟨whole, hwhole, hskipped, -⟩ := parseDocumentInput_skipped hread
  obtain ⟨whole', hwhole', hcount⟩ := hcounts found hsub existing hd
  have hwhole : parseSubscription env.readers existing.content = .ok whole := hwhole
  have hzero : found.skippedUnsupportedNodes = 0 := by
    rw [hwhole] at hwhole'
    rw [hcount, ← Except.ok.inj hwhole', hskipped]
    rfl
  rw [documentCandidate_unchanged hfound hd hzero] at hp hreplace
  obtain ⟨replacement, hnormalize, rfl, hchanged, -⟩ := applyProviderReplacement_ok hreplace
  have hpipeline := hagrees.documents found.id existing p
    (List.mem_map.mpr ⟨found, hsub, by rw [hd]⟩) hp
  obtain ⟨again, hagain, hnodes⟩ := pipeline_eq_ok.mp hpipeline
  have hparsed : parseContent env.toContentEnv existing.content = .ok parsed :=
    parseContent_of_parseDocumentInput hreaders hread
  rw [hparsed] at hagain
  rw [← Except.ok.inj hagain, hnormalize] at hnodes
  have hnodes : replacement = s.nodesOf p := Except.ok.inj hnodes
  subst hnodes
  have hunchanged : nodesChanged = false := by
    rw [Bool.eq_false_iff]
    intro htrue
    exact hchanged.mp htrue rfl
  have hdocument : documentChanged env (unchangedInput env found existing) = false := by
    simp [documentChanged, unchangedInput]
  simp only [hdocument, hunchanged, Bool.or_false, Bool.and_false] at hraised ⊢
  cases hraised
  exact ⟨p, hp, rfl⟩

/-! ## When the save is a no-op -/

/-- Only the owners of the nodes count. -/
theorem nodesLast_iff_owners (s : AppState) (p : ProviderId) :
    NodesLast s p ↔ (s.nodes.map (·.providerId)).Pairwise fun a b => a = p → b = p := by
  rw [NodesLast, List.pairwise_map]

/-- A replacement puts the nodes of its provider last. -/
theorem nodesLast_withNodesOf (s : AppState) (p : ProviderId) :
    NodesLast (s.withNodesOf p (s.nodesOf p)) p := by
  apply List.pairwise_append.mpr
  have hothers : ∀ n ∈ s.nodes.filter (·.providerId ≠ p), n.providerId ≠ p := by
    intro n hn
    simpa using (List.mem_filter.mp hn).2
  have howned : ∀ n ∈ s.nodesOf p, n.providerId = p := by
    intro n hn
    simpa [AppState.nodesOf] using (List.mem_filter.mp hn).2
  refine ⟨?_, ?_, fun a ha b hb _ => howned b hb⟩
  · exact List.pairwise_iff_forall_sublist.mpr
      fun hsub hp => absurd hp (hothers _ (hsub.subset (by simp)))
  · exact List.pairwise_iff_forall_sublist.mpr fun hsub _ => howned _ (hsub.subset (by simp))

/-- A revision that has seen a material stays exactly for this material. -/
theorem observe_stays_iff {r observed : ProxyRouting.RevisionState}
    {material other : ProxyRouting.CasMaterial} (h : r.observe material = .ok observed) :
    observed.observe other = .ok observed ↔ other = material := by
  have hseen : observed.material = some material := by
    rw [ProxyRouting.RevisionState.observe] at h
    split at h
    · next hsame =>
      cases h
      exact hsame
    · split at h
      · cases h
        rfl
      · cases h
  rw [ProxyRouting.RevisionState.observe, hseen]
  constructor
  · intro hstays
    split at hstays
    · next hsame => exact (Option.some.inj hsame).symm
    · split at hstays
      · have hrevision := congrArg ProxyRouting.RevisionState.revision (Except.ok.inj hstays)
        simp at hrevision
      · cases hstays
  · rintro rfl
    rw [if_pos rfl]

/-- **Saving a document as it is stored.**  In every state that the managers reach, the save
asks for no application and keeps everything but the order of the nodes; it is a no-op, for
the state, for the disk and for the routing revision, exactly when the nodes of the
subscription already come last. -/
theorem unchanged_save_iff (env : SubscriptionEnv) (hreaders : env.readers.Agree)
    (start : Option AppState) (hstart : start.getD .empty = .empty) (s : AppState)
    (hrun : Relation.ReflTransGen (ManagerStep env) start (some s)) (sub : Subscription)
    (hsub : sub ∈ s.subscriptions) (d : SubscriptionDocument) (hd : sub.document = some d)
    (worker : Option DocumentErrorCode) (prepared : PreparedDocumentSave)
    (h : prepareDocumentSave env worker (unchangedInput env sub d) s = .ok prepared) :
    ∃ p, s.soleProvider sub.id = some p ∧ prepared.requiresApply = false ∧
      prepared.next = { s with nodes := prepared.next.nodes } ∧
      (prepared.next = s ↔ NodesLast s p) ∧
      (commitPreparedDocument prepared s = .ok none ↔ NodesLast s p) ∧
      ∀ r observed : ProxyRouting.RevisionState, r.observe (.of s) = .ok observed →
        (observed.observe (.of prepared.next) = .ok observed ↔ NodesLast s p) := by
  obtain ⟨hagrees, hcounts⟩ : Agrees env s ∧ CountsSkipped env s :=
    agrees_of_managerRun hreaders hstart hrun
  obtain ⟨p, hp, rfl⟩ := unchangedSave_ok hagrees hreaders hcounts hsub hd h
  refine ⟨p, hp, rfl, rfl, withNodesOf_eq_iff s p, ?_, ?_⟩
  · rw [← withNodesOf_eq_iff s p, commitPreparedDocument, ok_seq]
    by_cases hsame : s = s.withNodesOf p (s.nodesOf p)
    · simp [← hsame]
    · simp [hsame, Ne.symm hsame]
  · intro r observed hobserved
    rw [observe_stays_iff hobserved]
    constructor
    · intro hmaterial
      have hnodes := congrArg ProxyRouting.CasMaterial.nodes hmaterial
      have howners : (s.withNodesOf p (s.nodesOf p)).nodes.map (·.providerId) =
          s.nodes.map (·.providerId) := by
        have hrows := congrArg (List.map fun row => ProviderId.mk row.2.1) hnodes
        simpa only [ProxyRouting.CasMaterial.of, List.map_map, Function.comp_def] using hrows
      have hlast := (nodesLast_iff_owners _ p).mp (nodesLast_withNodesOf s p)
      rw [howners] at hlast
      exact (nodesLast_iff_owners s p).mpr hlast
    · intro hlast
      rw [(withNodesOf_eq_iff s p).mpr hlast]

/-! ### Two subscriptions with one body -/

/-- The readers of `socksBody`, with a revision that the editor accepts. -/
def pairEnv : SubscriptionEnv :=
  { socksEnv with revisionFor := fun _ _ => String.ofList (List.replicate 64 'a') }

def pairState : AppState :=
  { importCandidate socksImport [2] 2000 socksState with
    nodes := [ProxyNode.ofDraft pairEnv.text ⟨"provider-01"⟩ socksDraft,
      ProxyNode.ofDraft pairEnv.text ⟨"provider-02"⟩ socksDraft] }

theorem reaches_socksState : ManagerStep pairEnv none (some socksState) :=
  @ManagerStep.operation _ (.subscription _) _ _
    (SubscriptionCommit.importManual socksImport_prepared socksImport_committed)

/-- The identity of the second node. -/
theorem ofDraft_pair : ProxyNode.ofDraft socksEnv.text ⟨"provider-02"⟩ socksDraft =
    socksNodeOf "provider-02" "node-452d816cb2078ec5" := by decide +kernel

theorem pairState_eq : pairState = { importCandidate socksImport [2] 2000
      { importCandidate socksImport [1] 1000 .empty with
        nodes := [socksNodeOf "provider-01" "node-00be45e343119ef4"] } with
    nodes := [socksNodeOf "provider-01" "node-00be45e343119ef4",
      socksNodeOf "provider-02" "node-452d816cb2078ec5"] } := by
  have hpair : pairEnv.text = socksEnv.text := rfl
  rw [pairState, hpair, ofDraft_socks, ofDraft_pair, socksState_eq]

theorem pairImport_committed :
    commitImport pairEnv.text socksImport [2] 2000 (some socksState) = .ok pairState := by
  have hid : identityOf "provider" [2] = "provider-02" := by decide
  have hvalid : pairState.validate = .ok () := by
    rw [pairState_eq]
    decide +kernel
  refine commitImport_of rfl (by decide) rfl ?_ hvalid
  rw [hid]
  exact normalizeNodes_socks _

theorem reaches_pairState : ManagerStep pairEnv (some socksState) (some pairState) :=
  @ManagerStep.operation _ (.subscription _) _ _
    (SubscriptionCommit.importManual socksImport_prepared pairImport_committed)

def officeSubscription : Subscription := importedSubscription socksImport [1] 1000

def officeDocument : SubscriptionDocument :=
  { format := .json, content := socksBody, localOverride := false }

/-- The parse of the unchanged document. -/
theorem officeDocument_parsed :
    parseDocumentInput pairEnv none (unchangedInput pairEnv officeSubscription officeDocument) =
      .ok { format := .json, nodes := [socksDraft], skipped := [] } := by decide +kernel

/-- A save of it parses it, and goes on with the state. -/
theorem officeDocument_saved (s : AppState) :
    prepareDocumentSave pairEnv none (unchangedInput pairEnv officeSubscription officeDocument) s =
      documentSaveOn pairEnv (unchangedInput pairEnv officeSubscription officeDocument)
        { format := .json, nodes := [socksDraft], skipped := [] } s := by
  rw [prepareDocumentSave, officeDocument_parsed]
  rfl

/-- With two subscriptions, saving the document of the first as it is moves its node behind
that of the second, which is then written to disk. -/
theorem unchanged_save_moves_nodes :
    ∃ prepared, Relation.ReflTransGen (ManagerStep pairEnv) none (some pairState) ∧
      prepareDocumentSave pairEnv none (unchangedInput pairEnv officeSubscription officeDocument)
        pairState = .ok prepared ∧
      prepared.next ≠ pairState ∧
      commitPreparedDocument prepared pairState = .ok (some prepared.next) := by
  have hok : (prepareDocumentSave pairEnv none
      (unchangedInput pairEnv officeSubscription officeDocument) pairState).map
      (fun prepared => (prepared.next.nodes.map (·.providerId), prepared.stateChanged))
        = .ok ([⟨"provider-02"⟩, ⟨"provider-01"⟩], true) := by
    rw [officeDocument_saved, pairState_eq]
    decide +kernel
  obtain ⟨prepared, hprepared, hfacts⟩ := map_eq_ok.mp hok
  obtain ⟨howners, hchanged⟩ := Prod.mk.inj hfacts
  have hbefore := prepareDocumentSave_before hprepared
  refine ⟨prepared, .tail (.single reaches_socksState) reaches_pairState, hprepared, ?_, ?_⟩
  · intro hsame
    rw [hsame] at howners
    exact absurd howners (by decide)
  · rw [commitPreparedDocument, hbefore, hchanged, ok_seq]
    simp

/-- With one subscription the save is a no-op. -/
theorem unchanged_save_iff_single :
    ∃ prepared, prepareDocumentSave pairEnv none
      (unchangedInput pairEnv officeSubscription officeDocument) socksState = .ok prepared ∧
      prepared.next = socksState := by
  have hok : (prepareDocumentSave pairEnv none
      (unchangedInput pairEnv officeSubscription officeDocument) socksState).isOk = true := by
    rw [officeDocument_saved, socksState_eq]
    decide +kernel
  obtain ⟨prepared, hprepared⟩ := exists_ok hok
  have hreaders : pairEnv.readers.Agree := socksEnv_agree
  obtain ⟨p, hp, -, -, hiff, -⟩ := unchanged_save_iff pairEnv hreaders none rfl socksState
    (.single reaches_socksState) officeSubscription List.mem_cons_self officeDocument rfl none
    prepared hprepared
  have hprovider : p = ⟨"provider-01"⟩ := Option.some.inj (hp.symm.trans (by decide +kernel))
  exact ⟨prepared, hprepared, hiff.mpr (hprovider ▸ by decide +kernel)⟩

end Veyra
