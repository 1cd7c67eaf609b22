import Veyra.Frontend.RoutingProvider

/-!
# Veyra.Frontend.RoutingOrder

The routing page over every run.  A query that is current is never refused and
never lost, and the page keeps the order of the backend in the runs in which no
query overtakes the response of an earlier mutation (`shown_in_order`).
Otherwise the response of the mutation takes the page back
(`goes_back_of_overtakes`).
-/

namespace Veyra.Frontend

open Transition

/-! ## Every run -/

namespace RoutingPage

open ProxyRoutingProvider ProxyRoutingResponseOrder

variable {α : Type} {revision : α → Nat} {w w' : RoutingPage α} {e : PageEvent α}
  {next : Option Nat × ProxyRoutingProvider α}

/-- What holds in every run: the page never accepts more than the backend has reached, and the
answer of a query that is current was made after all that the page has accepted. -/
structure Tracked (revision : α → Nat) (w : RoutingPage α) : Prop where
  reached : w.provider.accepted ≤ w.backendRevision
  issued : ∀ q, w.query = some q → q.epoch ≤ w.provider.epoch
  current : ∀ q s, w.query = some q → q.snapshot? = some s →
    w.provider.responseOrder.isCurrent q.epoch = true → w.provider.accepted ≤ revision s
  query_le : ∀ q s, w.query = some q → q.snapshot? = some s → revision s ≤ w.backendRevision
  mutation_le : ∀ m s, w.mutation = some m → m.snapshot? = some s →
    revision s ≤ w.backendRevision
  discarded : w.discarded = []

@[simp] theorem proceed_provider : (w.proceed next).provider = next.2 := by
  obtain ⟨sent, p⟩ := next
  cases sent <;> rfl

@[simp] theorem proceed_mutation : (w.proceed next).mutation = w.mutation := by
  obtain ⟨sent, p⟩ := next
  cases sent <;> rfl

/-- A provider that refreshes has a query on its way. -/
theorem proceed_query : (w.proceed next).query.isSome = (next.1.isSome || w.query.isSome) := by
  obtain ⟨sent, p⟩ := next
  cases sent <;> rfl

/-- At the start nothing is on its way. -/
theorem Tracked.start (n : Nat) : Tracked revision (start n) where
  reached := by
    have h : (-1 : Int) ≤ n := by omega
    exact h
  issued _ h := by cases h
  current _ _ h := by cases h
  query_le _ _ h := by cases h
  mutation_le _ _ h := by cases h
  discarded := rfl

/-- What is current stays current only while the epoch stays. -/
theorem isCurrent_iff {p : ProxyRoutingProvider α} {epoch : Nat} :
    p.responseOrder.isCurrent epoch = true ↔ epoch = p.epoch := by
  rw [isCurrent, decide_eq_true_eq, ProxyRoutingProvider.epoch]

/-- A request that is sent is tracked. -/
theorem Tracked.proceed (hw : Tracked revision w) (h : Sends w.provider next) :
    Tracked revision (w.proceed next) := by
  obtain ⟨sent, p⟩ := next
  have hepoch : w.provider.epoch ≤ p.epoch := h.epoch_le
  have haccepted : p.accepted = w.provider.accepted := h.accepted
  cases sent with
  | none =>
    refine ⟨?_, ?_, ?_, hw.query_le, hw.mutation_le, hw.discarded⟩
    · exact haccepted ▸ hw.reached
    · exact fun q hq => (hw.issued q hq).trans hepoch
    · intro q s hq hs hcurrent
      -- the epoch of the query has not been passed, so it is that of before
      have hissued : q.epoch ≤ w.provider.epoch := hw.issued q hq
      have hnow : q.epoch = p.epoch := isCurrent_iff.mp hcurrent
      have hbefore := hw.current q s hq hs (isCurrent_iff.mpr (by omega))
      exact haccepted ▸ hbefore
  | some epoch =>
    have hsent : epoch = p.epoch := h.sent epoch rfl
    refine ⟨haccepted ▸ hw.reached, ?_, ?_, ?_, hw.mutation_le, hw.discarded⟩
    · intro q hq
      cases hq
      exact hsent.le
    · intro q s hq hs
      cases hq
      cases hs
    · intro q s hq hs
      cases hq
      cases hs

/-- Backends answer: the new answer is at the revision that is reached. -/
theorem reach_spec {snapshot : Option α} (h : w.reach revision snapshot = some w') :
    ∃ n, w' = { w with backendRevision := n } ∧ w.backendRevision ≤ n ∧
      ∀ s, snapshot = some s → n = revision s := by
  cases snapshot with
  | none =>
    cases h
    exact ⟨w.backendRevision, rfl, le_refl _, fun _ h => by cases h⟩
  | some s =>
    rw [reach] at h
    split at h
    · next hle =>
      cases h
      exact ⟨revision s, rfl, hle, fun _ h => by cases h; rfl⟩
    · cases h

/-- A query that is current is not refused. -/
theorem Tracked.refused_eq (hw : Tracked revision w) {q : PendingQuery α}
    (hq : w.query = some q) : w.refused revision q = [] := by
  rw [refused]
  split
  · rfl
  · next s hs =>
    dsimp only
    rw [if_neg]
    simp only [Bool.and_eq_true, Bool.not_eq_true', not_and, Bool.not_eq_false]
    intro hcurrent
    have hle : w.provider.responseOrder.acceptedRevision ≤ revision s :=
      hw.current q s hq hs hcurrent
    rw [acceptQuery, if_neg]
    simp only [hcurrent, Bool.not_true, Bool.false_or, decide_eq_true_eq]
    omega

/-- The page after a query was delivered, before the loop goes on. -/
def received (revision : α → Nat) (w : RoutingPage α) (q : PendingQuery α)
    (response : Option (SnapshotResult α)) : RoutingPage α :=
  { w with
    query := none
    discarded := w.refused revision q ++ w.discarded
    provider := w.provider.applyQuery revision q.epoch response }

/-- The answer to a query is newer than what it finds. -/
theorem Tracked.received (hw : Tracked revision w) {epoch : Nat}
    {response : Option (SnapshotResult α)} (hq : w.query = some ⟨epoch, some response⟩) :
    Tracked revision (w.received revision ⟨epoch, some response⟩ response) := by
  obtain ⟨-, hspec⟩ := @applyQuery_spec _ revision w.provider epoch response
  refine ⟨?_, fun _ h => (by cases h), fun _ _ h => (by cases h), fun _ _ h => (by cases h),
    hw.mutation_le, ?_⟩
  · cases hspec with
    | inl hsame => exact hsame.2 ▸ hw.reached
    | inr hshown =>
      obtain ⟨s, hs, -, -, -, haccepted⟩ := hshown
      have hle := hw.query_le _ s hq (by rw [PendingQuery.snapshot?, hs])
      have hreached : (revision s : Int) ≤ w.backendRevision := by omega
      exact haccepted ▸ hreached
  · have hrefused := hw.refused_eq hq
    rw [RoutingPage.received, hrefused]
    exact hw.discarded

/-- The page once the response of a mutation is shown. -/
def settled (revision : α → Nat) (w : RoutingPage α) (s : α) : RoutingPage α :=
  { w with
    mutation := none
    provider := { w.provider with
      responseOrder := w.provider.responseOrder.acceptMutation (revision s)
      snapshot := some s
      error := none
      pending := false } }

/-- A mutation that is settled shows its snapshot. -/
theorem Tracked.settled (hw : Tracked revision w) {m : PendingMutation α} {s : α}
    (hm : w.mutation = some m) (hs : m.snapshot? = some s) :
    Tracked revision (w.settled revision s) := by
  have hle : (revision s : Int) ≤ w.backendRevision := by
    have h := hw.mutation_le m s hm hs
    omega
  refine ⟨max_le hw.reached hle, ?_, ?_, hw.query_le, fun _ _ h => (by cases h), hw.discarded⟩
  · exact fun q hq => (hw.issued q hq).trans (Nat.le_succ _)
  · intro q t hq ht hcurrent
    -- the epoch is a new one, so no query is current
    have hissued : q.epoch ≤ w.provider.epoch := hw.issued q hq
    have hnow : q.epoch = w.provider.epoch + 1 := isCurrent_iff.mp hcurrent
    omega

/-- The page once a mutation has failed. -/
def failed (w : RoutingPage α) : RoutingPage α := { w with mutation := none }

/-- A mutation that failed shows nothing. -/
theorem Tracked.failed (hw : Tracked revision w) : Tracked revision w.failed :=
  ⟨hw.reached, hw.issued, hw.current, hw.query_le, fun _ _ h => (by cases h), hw.discarded⟩

/-- What a step does, event by event. -/
inductive StepCases (revision : α → Nat) (w : RoutingPage α) : PageEvent α → RoutingPage α → Prop
  | refresh : StepCases revision w .refresh (w.proceed w.provider.refresh)
  | mutate (mutation : ProxyRouting.Mutation) (current : α)
      (shown : w.provider.snapshot = some current) (idle : w.provider.pending = false) :
      StepCases revision w (.mutate mutation)
        { w with
          provider := { w.provider with pending := true }
          mutation := some ⟨mutation, revision current, none⟩ }
  | answerQuery (q : PendingQuery α) (response : Option (SnapshotResult α)) (n : Nat)
      (hq : w.query = some q) (hn : w.backendRevision ≤ n)
      (hs : ∀ s, PendingQuery.snapshot? ⟨q.epoch, some response⟩ = some s → n = revision s) :
      StepCases revision w (.answerQuery response)
        { w with query := some ⟨q.epoch, some response⟩, backendRevision := n }
  | answerMutation (m : PendingMutation α) (response : Option (MutationResult α)) (n : Nat)
      (hm : w.mutation = some m) (hn : w.backendRevision ≤ n)
      (hs : ∀ s, PendingMutation.snapshot? ⟨m.mutation, m.currentRevision, some response⟩ = some s →
        n = revision s) :
      StepCases revision w (.answerMutation response)
        { w with
          mutation := some ⟨m.mutation, m.currentRevision, some response⟩, backendRevision := n }
  | deliverQuery (epoch : Nat) (response : Option (SnapshotResult α))
      (hq : w.query = some ⟨epoch, some response⟩) :
      StepCases revision w .deliverQuery
        ((w.received revision ⟨epoch, some response⟩ response).proceed
          (w.received revision ⟨epoch, some response⟩ response).provider.nextQuery)
  | mutated (m : PendingMutation α) (s : α) (hm : w.mutation = some m)
      (hs : m.snapshot? = some s) :
      StepCases revision w .deliverMutation (w.settled revision s)
  | mutationFailed (refreshes : Bool) :
      StepCases revision w .deliverMutation
        (w.failed.proceed (w.provider.afterFailure refreshes))

/-- **Inversion.**  What a step can do. -/
theorem step_cases (h : w.step revision e = some w') : StepCases revision w e w' := by
  cases e with
  | refresh =>
    cases h
    exact .refresh
  | mutate mutation =>
    rw [step] at h
    split at h
    · cases h
    · next n provider hsent =>
      obtain ⟨current, hshown, hidle, rfl, rfl⟩ := mutate_spec hsent
      cases h
      exact .mutate mutation current hshown hidle
  | answerQuery response =>
    rw [step] at h
    split at h
    · next epoch hq =>
      obtain ⟨n, rfl, hn, hs⟩ := reach_spec h
      exact .answerQuery ⟨epoch, none⟩ response n hq hn hs
    · cases h
  | answerMutation response =>
    rw [step] at h
    split at h
    · next mutation current hm =>
      obtain ⟨n, rfl, hn, hs⟩ := reach_spec h
      exact .answerMutation ⟨mutation, current, none⟩ response n hm hn hs
    · cases h
  | deliverQuery =>
    rw [step] at h
    split at h
    · next epoch response hq =>
      cases h
      exact .deliverQuery epoch response hq
    · cases h
  | deliverMutation =>
    rw [step] at h
    split at h
    · next mutation current response hm =>
      cases h
      match response with
      | some (.ok s) => exact .mutated _ s hm rfl
      | some (.error error n) =>
        obtain ⟨refreshes, hfailed⟩ := @receiveMutation_failed _ revision w.provider mutation
          current (some (.error error n)) fun _ h => by cases h
        rw [hfailed]
        exact .mutationFailed refreshes
      | none => exact .mutationFailed true
    · cases h

/-- **Step lemma.**  Every step keeps track of what is on its way. -/
theorem Tracked.step (hw : Tracked revision w) (h : w.step revision e = some w') :
    Tracked revision w' := by
  cases step_cases h with
  | refresh => exact hw.proceed (sends_refresh _)
  | mutate mutation current shown idle =>
    exact ⟨hw.reached, hw.issued, hw.current, hw.query_le,
      fun _ _ hm hs => (by cases hm; cases hs), hw.discarded⟩
  | answerQuery q response n hq hn hs =>
    have hreached : (w.backendRevision : Int) ≤ n := by omega
    refine ⟨hw.reached.trans hreached, ?_, ?_, ?_, ?_, hw.discarded⟩
    · intro q' hq'
      cases hq'
      exact hw.issued q hq
    · intro q' s hq' hs' _
      cases hq'
      have hnew : n = revision s := hs s hs'
      have hold := hw.reached
      show w.provider.accepted ≤ revision s
      omega
    · intro q' s hq' hs'
      cases hq'
      exact (hs s hs').ge
    · exact fun m s hm hms => (hw.mutation_le m s hm hms).trans hn
  | answerMutation m response n hm hn hs =>
    have hreached : (w.backendRevision : Int) ≤ n := by omega
    refine ⟨hw.reached.trans hreached, hw.issued, hw.current, ?_, ?_, hw.discarded⟩
    · exact fun q s hq hqs => (hw.query_le q s hq hqs).trans hn
    · intro m' s hm' hs'
      cases hm'
      exact (hs s hs').ge
  | deliverQuery epoch response hq => exact (hw.received hq).proceed (sends_nextQuery _)
  | mutated m s hm hs => exact hw.settled hm hs
  | mutationFailed refreshes => exact hw.failed.proceed (sends_afterFailure _ _)

/-- The watermark never goes back, whatever is shown. -/
theorem accepted_mono (h : w.step revision e = some w') :
    w.provider.accepted ≤ w'.provider.accepted := by
  cases step_cases h with
  | refresh =>
    rw [proceed_provider]
    exact (sends_refresh w.provider).accepted.ge
  | mutate | answerQuery | answerMutation => exact le_refl _
  | deliverQuery epoch response hq =>
    rw [proceed_provider, (sends_nextQuery _).accepted, received]
    obtain ⟨-, hspec⟩ := @applyQuery_spec _ revision w.provider epoch response
    cases hspec with
    | inl hsame => exact hsame.2.ge
    | inr hshown =>
      obtain ⟨s, -, -, hle, -, haccepted⟩ := hshown
      exact haccepted ▸ hle
  | mutated m s hm hs => exact le_max_left _ _
  | mutationFailed refreshes =>
    rw [proceed_provider]
    exact (sends_afterFailure _ _).accepted.ge

/-- The flags of the page are those of the messages under way, so no query and no mutation is
lost or sent twice. -/
def Counted (w : RoutingPage α) : Prop :=
  w.provider.queryInFlight = w.query.isSome ∧ w.provider.pending = w.mutation.isSome

/-- Whether or not a refresh sends a query, one is on its way after it. -/
theorem Counted.refresh_query (hw : w.Counted) :
    (w.provider.refresh.1.isSome || w.query.isSome) = true := by
  rw [(refresh_inFlight w.provider).2.1, hw.1, Bool.not_or_self]

/-- **Step lemma.**  Every step keeps the flags those of the messages under way. -/
theorem Counted.step (hw : w.Counted) (h : w.step revision e = some w') : w'.Counted := by
  cases step_cases h with
  | refresh =>
    obtain ⟨hflight, -, hpending⟩ := refresh_inFlight w.provider
    refine ⟨?_, ?_⟩
    · rw [proceed_provider, proceed_query, hflight, hw.refresh_query]
    · rw [proceed_provider, proceed_mutation, hpending, hw.2]
  | mutate mutation current shown idle => exact ⟨hw.1, rfl⟩
  | answerQuery q response n hq hn hs =>
    have hflight := hw.1
    rw [hq] at hflight
    exact ⟨hflight, hw.2⟩
  | answerMutation m response n hm hn hs =>
    have hpending := hw.2
    rw [hm] at hpending
    exact ⟨hw.1, hpending⟩
  | deliverQuery epoch response hq =>
    obtain ⟨hsame, hpending⟩ := @applyQuery_inFlight _ revision w.provider epoch response
    have hflight : (w.received revision ⟨epoch, some response⟩ response).provider.queryInFlight =
        true := by
      rw [received, hsame, hw.1, hq]
      rfl
    obtain ⟨hnext, hkept⟩ := nextQuery_inFlight hflight
    refine ⟨?_, ?_⟩
    · rw [proceed_provider, proceed_query, hnext, received]
      exact (Bool.or_false _).symm
    · rw [proceed_provider, proceed_mutation, hkept]
      exact hpending.trans hw.2
  | mutated m s hm hs => exact ⟨hw.1, rfl⟩
  | mutationFailed refreshes =>
    cases refreshes with
    | false => exact ⟨hw.1, rfl⟩
    | true =>
      refine ⟨?_, ?_⟩
      · rw [proceed_provider, proceed_query]
        exact (refresh_inFlight w.provider).1.trans hw.refresh_query.symm
      · rw [proceed_provider, proceed_mutation]
        rfl

/-- What every run keeps, whatever overtakes what. -/
theorem tracked_of_run {start : Nat} {events : List (PageEvent α)}
    (run : Runs (RoutingPage.step revision) Free (RoutingPage.start start) events w) :
    Tracked revision w ∧ w.Counted :=
  run.invariant (fun w => Tracked revision w ∧ w.Counted) ⟨.start start, rfl, rfl⟩
    fun _ _ _ hw _ next => ⟨hw.1.step next, hw.2.step next⟩

/-! ## Runs in order -/

/-- What holds while no query overtakes a mutation: the watermark is the revision that is shown,
and the answer of the pending mutation is not below it. -/
structure Ordered (revision : α → Nat) (w : RoutingPage α) : Prop where
  tracked : Tracked revision w
  shown : w.provider.accepted = w.provider.shownRevision revision
  pending : ∀ m s, w.mutation = some m → m.snapshot? = some s →
    w.provider.accepted ≤ revision s

/-- At the start nothing is shown. -/
theorem Ordered.start (n : Nat) : Ordered revision (start n) :=
  ⟨.start n, rfl, fun _ _ h => by cases h⟩

theorem shownRevision_of {p : ProxyRoutingProvider α} {s : α} (h : p.snapshot = some s) :
    p.shownRevision revision = revision s := by
  rw [shownRevision, h]

theorem shownRevision_congr {p p' : ProxyRoutingProvider α} (h : p'.snapshot = p.snapshot) :
    p'.shownRevision revision = p.shownRevision revision := by
  rw [shownRevision, shownRevision, h]

/-- A request shows nothing new. -/
theorem Ordered.proceed (hw : Ordered revision w) (h : Sends w.provider next) :
    Ordered revision (w.proceed next) := by
  refine ⟨hw.tracked.proceed h, ?_, ?_⟩
  · rw [proceed_provider, h.accepted, hw.shown, shownRevision_congr h.snapshot]
  · rw [proceed_provider, proceed_mutation, h.accepted]
    exact hw.pending

/-- The answer of a mutation that a query does not overtake is not below the query. -/
theorem le_of_not_overtakes {q : PendingQuery α} {m : PendingMutation α} {s t : α}
    (h : w.overtakes revision = false) (hq : w.query = some q) (hs : q.snapshot? = some s)
    (hcurrent : w.provider.responseOrder.isCurrent q.epoch = true) (hm : w.mutation = some m)
    (ht : m.snapshot? = some t) : revision s ≤ revision t := by
  simp only [overtakes, hq, hm, hs, ht, hcurrent, Bool.true_and, decide_eq_false_iff_not,
    not_lt] at h
  exact h

/-- An answer that overtakes nothing keeps the order. -/
theorem Ordered.received (hw : Ordered revision w) {epoch : Nat}
    {response : Option (SnapshotResult α)} (hq : w.query = some ⟨epoch, some response⟩)
    (hin : w.overtakes revision = false) :
    Ordered revision (w.received revision ⟨epoch, some response⟩ response) := by
  obtain ⟨-, hspec⟩ := @applyQuery_spec _ revision w.provider epoch response
  refine ⟨hw.tracked.received hq, ?_, ?_⟩
  · cases hspec with
    | inl hsame =>
      rw [RoutingPage.received, hsame.2, hw.shown, shownRevision_congr hsame.1]
    | inr hshown =>
      obtain ⟨s, -, -, -, hsnapshot, haccepted⟩ := hshown
      rw [RoutingPage.received, haccepted, shownRevision_of hsnapshot]
  · intro m t hm ht
    cases hspec with
    | inl hsame =>
      rw [RoutingPage.received, hsame.2]
      exact hw.pending m t hm ht
    | inr hshown =>
      obtain ⟨s, hs, hcurrent, -, -, haccepted⟩ := hshown
      have hqs : PendingQuery.snapshot? ⟨epoch, some response⟩ = some s := by
        rw [PendingQuery.snapshot?, hs]
      have hle := le_of_not_overtakes hin hq hqs hcurrent hm ht
      rw [RoutingPage.received, haccepted]
      omega

/-- The snapshot of a mutation is the newest one. -/
theorem Ordered.settled (hw : Ordered revision w) {m : PendingMutation α} {s : α}
    (hm : w.mutation = some m) (hs : m.snapshot? = some s) :
    Ordered revision (w.settled revision s) := by
  have hle : w.provider.accepted ≤ revision s := hw.pending m s hm hs
  exact ⟨hw.tracked.settled hm hs, max_eq_right hle, fun _ _ h => by cases h⟩

/-- A mutation that failed keeps the order. -/
theorem Ordered.failed (hw : Ordered revision w) : Ordered revision w.failed :=
  ⟨hw.tracked.failed, hw.shown, fun _ _ h => by cases h⟩

/-- **Step lemma.**  Steps that overtake nothing keep the order. -/
theorem Ordered.step (hw : Ordered revision w) (hin : InOrder revision w e)
    (h : w.step revision e = some w') : Ordered revision w' := by
  have htracked := hw.tracked.step h
  cases step_cases h with
  | refresh => exact hw.proceed (sends_refresh _)
  | mutate mutation current shown idle =>
    exact ⟨htracked, hw.shown, fun _ _ hm hs => by cases hm; cases hs⟩
  | answerQuery q response n hq hn hs => exact ⟨htracked, hw.shown, hw.pending⟩
  | answerMutation m response n hm hn hs =>
    refine ⟨htracked, hw.shown, ?_⟩
    intro m' s hm' hs'
    cases hm'
    have hnew : n = revision s := hs s hs'
    have hreached := hw.tracked.reached
    show w.provider.accepted ≤ revision s
    omega
  | deliverQuery epoch response hq => exact (hw.received hq hin).proceed (sends_nextQuery _)
  | mutated m s hm hs => exact hw.settled hm hs
  | mutationFailed refreshes => exact hw.failed.proceed (sends_afterFailure _ _)

/-- The revision that is shown does not go back while no query overtakes a mutation. -/
theorem Ordered.shownRevision_mono {events : List (PageEvent α)} (hw : Ordered revision w)
    (run : Runs (RoutingPage.step revision) (InOrder revision) w events w') :
    Ordered revision w' ∧
      w.provider.shownRevision revision ≤ w'.provider.shownRevision revision := by
  induction run with
  | refl => exact ⟨hw, le_refl _⟩
  | tail _ meets next ih =>
    obtain ⟨hmid, hle⟩ := ih
    have hnext := hmid.step meets next
    have hmono := accepted_mono next
    rw [hmid.shown, hnext.shown] at hmono
    exact ⟨hnext, hle.trans hmono⟩

/-- **The page keeps the order of the backend.**  While no query overtakes the response of an
earlier mutation, the revision that is shown never decreases, and once nothing is under way, no
snapshot that was received while current is newer than the one shown. -/
theorem shown_in_order {start : Nat} {events more : List (PageEvent α)}
    (run : Runs (step revision) (InOrder revision) (RoutingPage.start start) events w)
    (rest : Runs (step revision) (InOrder revision) w more w') :
    (∀ before, w.provider.snapshot = some before →
      ∃ after, w'.provider.snapshot = some after ∧ revision before ≤ revision after) ∧
    (w'.Quiet → ∀ refused ∈ w'.discarded,
      ∃ shown, w'.provider.snapshot = some shown ∧ revision refused ≤ revision shown) := by
  have hw : Ordered revision w := ((Ordered.start start).shownRevision_mono run).1
  obtain ⟨hw', hle⟩ := hw.shownRevision_mono rest
  constructor
  · intro before hbefore
    rw [shownRevision_of hbefore] at hle
    cases hafter : w'.provider.snapshot with
    | none =>
      rw [shownRevision, hafter] at hle
      dsimp only at hle
      omega
    | some after =>
      rw [shownRevision_of hafter] at hle
      exact ⟨after, rfl, by omega⟩
  · intro _ refused hrefused
    rw [hw'.tracked.discarded] at hrefused
    cases hrefused

/-- The page is refreshed, changed and answered, in order. -/
theorem shown_in_order_saved :
    ∃ w w' : RoutingPage ℕ, w.provider.snapshot = some 1 ∧ w'.provider.snapshot = some 2 ∧
      (∀ before, w.provider.snapshot = some before →
        ∃ after, w'.provider.snapshot = some after ∧ id before ≤ id after) ∧
      (w'.Quiet → ∀ refused ∈ w'.discarded,
        ∃ shown, w'.provider.snapshot = some shown ∧ id refused ≤ id shown) := by
  refine ⟨_, _, ?_, ?_, shown_in_order
    (show Runs (step id) (InOrder id) (RoutingPage.start 1)
      [.refresh, .answerQuery (some (.ok 1)), .deliverQuery] _ from
      ((Runs.refl.tail trivial rfl).tail trivial rfl).tail (by rfl) rfl)
    (show Runs (step id) (InOrder id) _
      [.mutate (.deleteRoute "route"), .answerMutation (some (.ok 2)), .deliverMutation] _ from
      ((Runs.refl.tail trivial rfl).tail trivial rfl).tail trivial rfl)⟩
  · rfl
  · rfl

/-! ## Out of order -/

/-- What is on its way when an answer overtakes another one. -/
theorem of_overtakes (h : w.overtakes revision = true) :
    ∃ epoch s mutation n t, w.query = some ⟨epoch, some (some (.ok s))⟩ ∧
      w.mutation = some ⟨mutation, n, some (some (.ok t))⟩ ∧
      w.provider.responseOrder.isCurrent epoch = true ∧ revision t < revision s := by
  rw [overtakes] at h
  split at h
  · next q m hq hm =>
    split at h
    · next s t hs ht =>
      rw [Bool.and_eq_true, decide_eq_true_eq] at h
      have hanswer := PendingQuery.answer_of_snapshot? hs
      have hanswer' := PendingMutation.answer_of_snapshot? ht
      obtain ⟨epoch, answer⟩ := q
      obtain ⟨mutation, n, answer'⟩ := m
      subst hanswer hanswer'
      exact ⟨epoch, s, mutation, n, t, hq, hm, h⟩
    · cases h
  · cases h

/-- A query that overtakes a mutation is shown, and the response of the mutation, delivered next,
takes the page back. -/
theorem goes_back_of_overtakes {start : Nat} {events : List (PageEvent α)}
    (run : Runs (RoutingPage.step revision) Free (RoutingPage.start start) events w)
    (h : w.overtakes revision = true) :
    ∃ w₁ w₂, w.step revision .deliverQuery = some w₁ ∧
      w₁.step revision .deliverMutation = some w₂ ∧
      w₂.provider.shownRevision revision < w₁.provider.shownRevision revision := by
  obtain ⟨epoch, s, mutation, n, t, hq, hm, hcurrent, hlt⟩ := of_overtakes h
  have hle : w.provider.accepted ≤ revision s :=
    (tracked_of_run run).1.current _ s hq rfl hcurrent
  have hshown := @applyQuery_shown _ revision _ _ _ hcurrent hle
  refine ⟨_, _, by rw [step, hq], by rw [step, proceed_mutation, hm], ?_⟩
  have hkept : (w.provider.receiveQuery revision epoch (some (.ok s))).2.snapshot = some s := by
    rw [receiveQuery, (sends_nextQuery _).snapshot, hshown]
  rw [proceed_provider, receiveMutation, shownRevision_of rfl, proceed_provider,
    shownRevision_of hkept]
  omega

/-- A query is answered after a mutation and delivered before it: the page shows the revision of
the query and then the smaller one of the mutation. -/
theorem mutation_goes_back :
    ∃ w w' : RoutingPage ℕ,
      Runs (step id) Free (RoutingPage.start 1)
        [.refresh, .answerQuery (some (.ok 1)), .deliverQuery,
          .mutate (.deleteRoute "route"), .answerMutation (some (.ok 2)),
          .refresh, .answerQuery (some (.ok 3)), .deliverQuery] w ∧
      Runs (step id) Free w [.deliverMutation] w' ∧
      w.provider.snapshot = some 3 ∧ w'.provider.snapshot = some 2 :=
  ⟨_, _, .of_free rfl, .of_free rfl, rfl, rfl⟩

end RoutingPage

end Veyra.Frontend
