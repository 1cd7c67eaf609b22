import Veyra.Application.RoutingManager
import Veyra.Lib.Transition

/-!
# Veyra.Frontend.RoutingProvider

The routing page as a state machine: at most one query and one mutation are
under way, the backend handles them one at a time, and the responses come back
in any order.

`ProxyRoutingResponseOrder` keeps a watermark of the revisions it accepted, but
`mutate` shows the snapshot of its response whatever the watermark says.
-/

namespace Veyra.Frontend

open Transition

/-- Orders the responses of queries and mutations: the epoch of the query whose response still
counts, and the greatest revision accepted, `-1` before the first. -/
structure ProxyRoutingResponseOrder where
  requestEpoch : Nat
  acceptedRevision : Int
deriving DecidableEq, Repr

namespace ProxyRoutingResponseOrder

def new : ProxyRoutingResponseOrder := ⟨0, -1⟩

def beginQuery (order : ProxyRoutingResponseOrder) : Nat × ProxyRoutingResponseOrder :=
  (order.requestEpoch + 1, { order with requestEpoch := order.requestEpoch + 1 })

def invalidateQueries (order : ProxyRoutingResponseOrder) : ProxyRoutingResponseOrder :=
  { order with requestEpoch := order.requestEpoch + 1 }

def isCurrent (order : ProxyRoutingResponseOrder) (epoch : Nat) : Bool :=
  epoch = order.requestEpoch

def acceptQuery (order : ProxyRoutingResponseOrder) (epoch revision : Nat) :
    Bool × ProxyRoutingResponseOrder :=
  if !order.isCurrent epoch || revision < order.acceptedRevision then (false, order)
  else (true, { order with acceptedRevision := revision })

def acceptMutation (order : ProxyRoutingResponseOrder) (revision : Nat) :
    ProxyRoutingResponseOrder :=
  let order := order.invalidateQueries
  { order with acceptedRevision := max order.acceptedRevision revision }

end ProxyRoutingResponseOrder

/-- `SnapshotResult`. -/
inductive SnapshotResult (α : Type) where
  | ok (snapshot : α)
  | error (error : ProxyRouting.QueryError)

/-- `MutationResult`, without the outcome, which only words the notice. -/
inductive MutationResult (α : Type) where
  | ok (snapshot : α)
  | error (error : ProxyRouting.MutationError) (revision : Option Nat)

/-- What the page shows in place of a snapshot. -/
inductive ProviderError
  | query (error : ProxyRouting.QueryError)
  | invalidResponse
deriving DecidableEq, Repr

/-- `shouldRefreshForRevision`. -/
def shouldRefreshForRevision (currentRevision : Nat) (revision : Option Nat) : Bool :=
  revision = none || revision ≠ some currentRevision

/-- `shouldRefreshAfterMutationError`. -/
def shouldRefreshAfterMutationError (mutation : ProxyRouting.Mutation) (currentRevision : Nat)
    (revision : Option Nat) : Bool :=
  match mutation with
  | .applyConfiguration => true
  | _ => shouldRefreshForRevision currentRevision revision

/-- The state of `ProxyRoutingProvider` while it is mounted, without its notices. -/
structure ProxyRoutingProvider (α : Type) where
  snapshot : Option α
  loading : Bool
  error : Option ProviderError
  pending : Bool
  queryInFlight : Bool
  queryQueued : Bool
  responseOrder : ProxyRoutingResponseOrder

namespace ProxyRoutingProvider

variable {α : Type} (revision : α → Nat)

def new : ProxyRoutingProvider α := ⟨none, true, none, false, false, false, .new⟩

/-- The head of the loop of `refresh`, up to the request: the epoch of the query that is sent. -/
def beginQuery (p : ProxyRoutingProvider α) : Nat × ProxyRoutingProvider α :=
  let (epoch, order) := p.responseOrder.beginQuery
  (epoch, { p with queryQueued := false, responseOrder := order })

/-- `refresh`, up to the first response: the epoch of the query that is sent, if one is. -/
def refresh (p : ProxyRoutingProvider α) : Option Nat × ProxyRoutingProvider α :=
  if p.queryInFlight then
    (none, { p with queryQueued := true, responseOrder := p.responseOrder.invalidateQueries })
  else
    let (epoch, p) := { p with queryInFlight := true, loading := true }.beginQuery
    (some epoch, p)

/-- What `refresh` does with a response; `none` is a request or a decoder that throws. -/
def applyQuery (p : ProxyRoutingProvider α) (epoch : Nat) (response : Option (SnapshotResult α)) :
    ProxyRoutingProvider α :=
  if !p.responseOrder.isCurrent epoch then p else
  match response with
  | some (.ok snapshot) =>
    match p.responseOrder.acceptQuery epoch (revision snapshot) with
    | (true, order) => { p with responseOrder := order, snapshot := some snapshot, error := none }
    | (false, order) => { p with responseOrder := order }
  | some (.error e) => { p with error := some (.query e) }
  | none => { p with error := some .invalidResponse }

/-- The end of a turn of the loop of `refresh`: the epoch of the next query, if one is queued. -/
def nextQuery (p : ProxyRoutingProvider α) : Option Nat × ProxyRoutingProvider α :=
  if p.queryQueued then
    let (epoch, p) := p.beginQuery
    (some epoch, p)
  else (none, { p with queryInFlight := false, loading := false })

/-- The loop of `refresh` from a response to the next request or to its end. -/
def receiveQuery (p : ProxyRoutingProvider α) (epoch : Nat)
    (response : Option (SnapshotResult α)) : Option Nat × ProxyRoutingProvider α :=
  (p.applyQuery revision epoch response).nextQuery

/-- `mutate`, up to the request: the revision that is sent, unless nothing is shown or a mutation
is pending. -/
def mutate (p : ProxyRoutingProvider α) : Option (Nat × ProxyRoutingProvider α) :=
  match p.snapshot with
  | none => none
  | some current => if p.pending then none else some (revision current, { p with pending := true })

/-- `mutate` from the response on: the epoch of the query that its refresh sends, if any. -/
def receiveMutation (p : ProxyRoutingProvider α) (mutation : ProxyRouting.Mutation)
    (currentRevision : Nat) (response : Option (MutationResult α)) :
    Option Nat × ProxyRoutingProvider α :=
  let (epoch, p) := match response with
    | some (.ok snapshot) =>
      (none, { p with
        responseOrder := p.responseOrder.acceptMutation (revision snapshot)
        snapshot := some snapshot
        error := none })
    | some (.error _ revision) =>
      if shouldRefreshAfterMutationError mutation currentRevision revision then p.refresh
      else (none, p)
    | none => p.refresh
  (epoch, { p with pending := false })

end ProxyRoutingProvider

/-! ## The page and the backend -/

/-- A query under way; the answer is there once the backend has handled it. -/
structure PendingQuery (α : Type) where
  epoch : Nat
  answer : Option (Option (SnapshotResult α))

/-- A mutation under way, with the revision that it was made on. -/
structure PendingMutation (α : Type) where
  mutation : ProxyRouting.Mutation
  currentRevision : Nat
  answer : Option (Option (MutationResult α))

/-- The snapshot of a query that the backend has handled. -/
def PendingQuery.snapshot? {α : Type} (q : PendingQuery α) : Option α :=
  match q.answer with
  | some (some (.ok snapshot)) => some snapshot
  | _ => none

/-- The snapshot of a mutation that the backend has handled. -/
def PendingMutation.snapshot? {α : Type} (m : PendingMutation α) : Option α :=
  match m.answer with
  | some (some (.ok snapshot)) => some snapshot
  | _ => none

theorem PendingQuery.answer_of_snapshot? {α : Type} {q : PendingQuery α} {s : α}
    (h : q.snapshot? = some s) : q.answer = some (some (.ok s)) := by
  rw [snapshot?] at h
  split at h
  · next hanswer =>
    cases h
    exact hanswer
  · cases h

theorem PendingMutation.answer_of_snapshot? {α : Type} {m : PendingMutation α} {s : α}
    (h : m.snapshot? = some s) : m.answer = some (some (.ok s)) := by
  rw [snapshot?] at h
  split at h
  · next hanswer =>
    cases h
    exact hanswer
  · cases h

/-- The page, the revision that the backend has reached and the messages under way.  `discarded`
records the snapshots that were received while their query was current and not shown. -/
structure RoutingPage (α : Type) where
  provider : ProxyRoutingProvider α
  backendRevision : Nat
  query : Option (PendingQuery α)
  mutation : Option (PendingMutation α)
  discarded : List α

/-- What can happen next: the page asks for a snapshot or a mutation, the backend handles a
request, a response arrives. -/
inductive PageEvent (α : Type) where
  | refresh
  | mutate (mutation : ProxyRouting.Mutation)
  | answerQuery (response : Option (SnapshotResult α))
  | answerMutation (response : Option (MutationResult α))
  | deliverQuery
  | deliverMutation

namespace RoutingPage

variable {α : Type} (revision : α → Nat)

/-- The page as it is mounted, before its first refresh. -/
def start (backendRevision : Nat) : RoutingPage α := ⟨.new, backendRevision, none, none, []⟩

/-- The provider goes on; a query that it sends is under way from now on. -/
def proceed (w : RoutingPage α) (next : Option Nat × ProxyRoutingProvider α) : RoutingPage α :=
  match next with
  | (none, provider) => { w with provider }
  | (some epoch, provider) => { w with provider, query := some ⟨epoch, none⟩ }

/-- The backend reaches the revision of a snapshot; it never goes back. -/
def reach (w : RoutingPage α) (snapshot : Option α) : Option (RoutingPage α) :=
  match snapshot with
  | none => some w
  | some snapshot =>
    if w.backendRevision ≤ revision snapshot then
      some { w with backendRevision := revision snapshot }
    else none

/-- The snapshot of a response that is current and refused all the same. -/
def refused (w : RoutingPage α) (q : PendingQuery α) : List α :=
  match q.snapshot? with
  | none => []
  | some snapshot =>
    let order := w.provider.responseOrder
    if order.isCurrent q.epoch && !(order.acceptQuery q.epoch (revision snapshot)).1
    then [snapshot] else []

def step (w : RoutingPage α) : PageEvent α → Option (RoutingPage α)
  | .refresh => some (w.proceed w.provider.refresh)
  | .mutate mutation =>
    match w.provider.mutate revision with
    | none => none
    | some (currentRevision, provider) =>
      some { w with provider, mutation := some ⟨mutation, currentRevision, none⟩ }
  | .answerQuery response =>
    match w.query with
    | some ⟨epoch, none⟩ =>
      let q : PendingQuery α := ⟨epoch, some response⟩
      { w with query := some q }.reach revision q.snapshot?
    | _ => none
  | .answerMutation response =>
    match w.mutation with
    | some ⟨mutation, currentRevision, none⟩ =>
      let m : PendingMutation α := ⟨mutation, currentRevision, some response⟩
      { w with mutation := some m }.reach revision m.snapshot?
    | _ => none
  | .deliverQuery =>
    match w.query with
    | some ⟨epoch, some response⟩ =>
      let discarded := w.refused revision ⟨epoch, some response⟩ ++ w.discarded
      some ({ w with query := none, discarded }.proceed
        (w.provider.receiveQuery revision epoch response))
    | _ => none
  | .deliverMutation =>
    match w.mutation with
    | some ⟨mutation, currentRevision, some response⟩ =>
      some ({ w with mutation := none }.proceed
        (w.provider.receiveMutation revision mutation currentRevision response))
    | _ => none

/-- No request is in flight and none is queued. -/
def Quiet (w : RoutingPage α) : Prop :=
  w.query = none ∧ w.mutation = none ∧ w.provider.queryQueued = false

/-- A query is about to be shown before the response of a mutation that the backend handled
earlier, at a smaller revision. -/
def overtakes (w : RoutingPage α) : Bool :=
  match w.query, w.mutation with
  | some q, some m =>
    match q.snapshot?, m.snapshot? with
    | some queried, some mutated =>
      w.provider.responseOrder.isCurrent q.epoch && revision mutated < revision queried
    | _, _ => false
  | _, _ => false

/-- The condition on a run: no query overtakes a mutation. -/
def InOrder (w : RoutingPage α) (e : PageEvent α) : Prop :=
  match e with
  | .deliverQuery => w.overtakes revision = false
  | _ => True

end RoutingPage

/-! ## What the provider does -/

namespace ProxyRoutingProvider

variable {α : Type} {revision : α → Nat} {p p' : ProxyRoutingProvider α}
  {next : Option Nat × ProxyRoutingProvider α}

/-- The greatest revision accepted. -/
def accepted (p : ProxyRoutingProvider α) : Int := p.responseOrder.acceptedRevision

/-- The epoch of the latest query or invalidation. -/
def epoch (p : ProxyRoutingProvider α) : Nat := p.responseOrder.requestEpoch

/-- The revision that is shown, `-1` before the first. -/
def shownRevision (revision : α → Nat) (p : ProxyRoutingProvider α) : Int :=
  match p.snapshot with
  | none => -1
  | some snapshot => revision snapshot

/-- The provider goes on to show and to accept the same, and a query that it sends has the latest
epoch. -/
structure Sends (p : ProxyRoutingProvider α) (next : Option Nat × ProxyRoutingProvider α) :
    Prop where
  snapshot : next.2.snapshot = p.snapshot
  accepted : next.2.accepted = p.accepted
  epoch_le : p.epoch ≤ next.2.epoch
  sent : ∀ epoch, next.1 = some epoch → epoch = next.2.epoch

theorem Sends.nothing (p : ProxyRoutingProvider α) : Sends p (none, p) :=
  ⟨rfl, rfl, le_refl _, fun _ h => by cases h⟩

theorem sends_beginQuery (p : ProxyRoutingProvider α) :
    Sends p (some p.beginQuery.1, p.beginQuery.2) :=
  ⟨rfl, rfl, Nat.le_succ _, fun _ h => by cases h; rfl⟩

theorem sends_refresh (p : ProxyRoutingProvider α) : Sends p p.refresh := by
  rw [refresh]
  split
  · exact ⟨rfl, rfl, Nat.le_succ _, fun _ h => by cases h⟩
  · exact ⟨rfl, rfl, Nat.le_succ _, fun _ h => by cases h; rfl⟩

theorem sends_nextQuery (p : ProxyRoutingProvider α) : Sends p p.nextQuery := by
  rw [nextQuery]
  split
  · exact sends_beginQuery p
  · exact ⟨rfl, rfl, le_refl _, fun _ h => by cases h⟩

/-- A query is under way after every `refresh`, a new one if none was before. -/
theorem refresh_inFlight (p : ProxyRoutingProvider α) :
    p.refresh.2.queryInFlight = true ∧ p.refresh.1.isSome = !p.queryInFlight ∧
      p.refresh.2.pending = p.pending := by
  cases hquery : p.queryInFlight with
  | true => simp [refresh, hquery]
  | false => simp [refresh, hquery, beginQuery]

/-- The loop ends when it sends no further query. -/
theorem nextQuery_inFlight (h : p.queryInFlight = true) :
    p.nextQuery.2.queryInFlight = p.nextQuery.1.isSome ∧ p.nextQuery.2.pending = p.pending := by
  cases hqueued : p.queryQueued with
  | true => simp [nextQuery, hqueued, beginQuery, h]
  | false => simp [nextQuery, hqueued]

/-- A response to a query starts and ends nothing. -/
theorem applyQuery_inFlight (p : ProxyRoutingProvider α) (epoch : Nat)
    (response : Option (SnapshotResult α)) :
    (p.applyQuery revision epoch response).queryInFlight = p.queryInFlight ∧
      (p.applyQuery revision epoch response).pending = p.pending := by
  rw [applyQuery.eq_def]
  split
  · exact ⟨rfl, rfl⟩
  · split
    · split <;> exact ⟨rfl, rfl⟩
    · exact ⟨rfl, rfl⟩
    · exact ⟨rfl, rfl⟩

/-- What follows a mutation that failed: a refresh, or nothing. -/
def afterFailure (p : ProxyRoutingProvider α) (refreshes : Bool) :
    Option Nat × ProxyRoutingProvider α :=
  let (epoch, p) := if refreshes then p.refresh else (none, p)
  (epoch, { p with pending := false })

theorem sends_afterFailure (p : ProxyRoutingProvider α) (refreshes : Bool) :
    Sends p (p.afterFailure refreshes) := by
  cases refreshes with
  | false => exact ⟨rfl, rfl, le_refl _, fun _ h => by cases h⟩
  | true =>
    have h := sends_refresh p
    exact ⟨h.snapshot, h.accepted, h.epoch_le, h.sent⟩

theorem receiveMutation_failed {mutation : ProxyRouting.Mutation} {n : Nat}
    {response : Option (MutationResult α)} (h : ∀ s, response ≠ some (.ok s)) :
    ∃ refreshes, p.receiveMutation revision mutation n response = p.afterFailure refreshes := by
  match response with
  | none => exact ⟨true, rfl⟩
  | some (.ok s) => exact absurd rfl (h s)
  | some (.error error current) =>
    refine ⟨shouldRefreshAfterMutationError mutation n current, ?_⟩
    rw [receiveMutation, afterFailure]

theorem mutate_spec {n : Nat} (h : p.mutate revision = some (n, p')) :
    ∃ current, p.snapshot = some current ∧ p.pending = false ∧ n = revision current ∧
      p' = { p with pending := true } := by
  rw [mutate] at h
  split at h
  · cases h
  · next current hshown =>
    split at h
    · cases h
    · next hidle =>
      cases h
      exact ⟨current, hshown, by simpa using hidle, rfl, rfl⟩

/-- A response to a query is shown when its query is current and the watermark lets it pass, and
changes neither otherwise. -/
theorem applyQuery_spec (p : ProxyRoutingProvider α) (epoch : Nat)
    (response : Option (SnapshotResult α)) :
    (p.applyQuery revision epoch response).epoch = p.epoch ∧
      (((p.applyQuery revision epoch response).snapshot = p.snapshot ∧
          (p.applyQuery revision epoch response).accepted = p.accepted) ∨
        ∃ snapshot, response = some (.ok snapshot) ∧
          p.responseOrder.isCurrent epoch = true ∧ p.accepted ≤ revision snapshot ∧
          (p.applyQuery revision epoch response).snapshot = some snapshot ∧
          (p.applyQuery revision epoch response).accepted = revision snapshot) := by
  cases hcurrent : p.responseOrder.isCurrent epoch with
  | false => simp [applyQuery, hcurrent]
  | true =>
    match response with
    | none => simp [applyQuery, hcurrent, accepted, ProxyRoutingProvider.epoch]
    | some (.error e) => simp [applyQuery, hcurrent, accepted, ProxyRoutingProvider.epoch]
    | some (.ok snapshot) =>
      by_cases hbelow : (revision snapshot : Int) < p.accepted
      · have hrefused : p.responseOrder.acceptQuery epoch (revision snapshot) =
            (false, p.responseOrder) := by
          rw [ProxyRoutingResponseOrder.acceptQuery, if_pos]
          simp only [hcurrent, Bool.not_true, Bool.false_or, decide_eq_true_eq]
          exact hbelow
        simp [applyQuery, hcurrent, hrefused, accepted, ProxyRoutingProvider.epoch]
      · have htaken : p.responseOrder.acceptQuery epoch (revision snapshot) =
            (true, { p.responseOrder with acceptedRevision := revision snapshot }) := by
          rw [ProxyRoutingResponseOrder.acceptQuery, if_neg]
          simp only [hcurrent, Bool.not_true, Bool.false_or, decide_eq_true_eq]
          exact hbelow
        have hle : p.responseOrder.acceptedRevision ≤ revision snapshot := by
          rw [accepted] at hbelow
          omega
        simp [applyQuery, hcurrent, htaken, hle, accepted, ProxyRoutingProvider.epoch]

/-- A current response that is not below the watermark is shown. -/
theorem applyQuery_shown {epoch : Nat} {snapshot : α}
    (hcurrent : p.responseOrder.isCurrent epoch = true) (hle : p.accepted ≤ revision snapshot) :
    (p.applyQuery revision epoch (some (.ok snapshot))).snapshot = some snapshot := by
  have hbelow : ¬(revision snapshot : Int) < p.responseOrder.acceptedRevision := by
    rw [accepted] at hle
    omega
  simp [applyQuery, ProxyRoutingResponseOrder.acceptQuery, hcurrent, hbelow]

end ProxyRoutingProvider

end Veyra.Frontend
