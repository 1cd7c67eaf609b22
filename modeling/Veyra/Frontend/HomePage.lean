import Veyra.Application.ManagedRuntime
import Veyra.Application.WindowFeed
import Veyra.Frontend.Observability
import Mathlib.Data.List.MinMax

/-!
# Veyra.Frontend.HomePage

The home page and the process behind it.  The page takes an observation in if it is newer than the
one it shows, so it shows the newest that it got (`home_page_newest`), whatever the order in which
the threads of the process hand their deltas over; once everything has arrived it shows the runtime
as it is (`home_page_settles`).  Starting or stopping the runtime marks what is shown as
unconfirmed, until a snapshot from after the action is there (`action_confirmed`).
-/

namespace Veyra.Frontend

open Transition

/-! ## Newer observations -/

/-- The order of observations: the revision, and for one revision the time. -/
def RuntimeObservation.version (o : RuntimeObservation) : ℕ ×ₗ ℕ :=
  toLex (o.revision, o.observedAtMs)

theorem version_lt {o next : RuntimeObservation} :
    o.version < next.version ↔ o.revision < next.revision ∨
      o.revision = next.revision ∧ o.observedAtMs < next.observedAtMs :=
  Prod.Lex.lt_iff

theorem revision_le_of_version {o next : RuntimeObservation} (h : o.version ≤ next.version) :
    o.revision ≤ next.revision := by
  obtain hlt | ⟨heq, -⟩ := Prod.Lex.le_iff.mp h
  · exact Nat.le_of_lt hlt
  · exact Nat.le_of_eq heq

def acceptNewerObservation (current : Option RuntimeObservation) (next : RuntimeObservation) :
    Option RuntimeObservation :=
  match current with
  | none => some next
  | some held =>
    if next.revision > held.revision ∨
        next.revision = held.revision ∧ next.observedAtMs > held.observedAtMs then some next
    else some held

/-- Taking in one observation after another keeps the newest. -/
theorem acceptNewer_argmax (taken : List RuntimeObservation) (next : RuntimeObservation) :
    acceptNewerObservation (taken.argmax RuntimeObservation.version) next =
      (taken ++ [next]).argmax RuntimeObservation.version := by
  rw [List.argmax_concat]
  cases taken.argmax RuntimeObservation.version with
  | none => rfl
  | some held =>
    rw [acceptNewerObservation]
    exact if_congr (by rw [version_lt, eq_comm]) rfl rfl

/-- What is accepted is not older than what is offered. -/
theorem acceptNewer_le (current : Option RuntimeObservation) (next : RuntimeObservation) :
    ∃ o, acceptNewerObservation current next = some o ∧ next.revision ≤ o.revision := by
  cases current with
  | none => exact ⟨next, rfl, Nat.le_refl _⟩
  | some held =>
    rw [acceptNewerObservation]
    split
    · exact ⟨next, rfl, Nat.le_refl _⟩
    · exact ⟨held, rfl, by omega⟩

/-! ## The page -/

/-- `ManagedRuntimeStartResult | ManagedRuntimeStopResult`. -/
inductive RuntimeActionResult
  | start (result : ManagedRuntimeStartResult)
  | stop (result : ManagedRuntimeStopResult)
deriving DecidableEq, Repr

def actionMessages : RuntimeActionResult → String
  | .start .started => "内核已启动"
  | .start .alreadyRunning => "内核已在运行"
  | .start .stateUnavailable => "配置状态不可用"
  | .start .configurationFailed => "配置生成失败，未应用新配置"
  | .start .startFailed => "内核启动失败，请查看运行状态"
  | .start .subscriptionSelectionRequired => "请先在订阅页选择要使用的订阅"
  | .start .busy | .stop .busy => "操作进行中，请稍后重试"
  | .stop .stopped => "停止操作完成"
  | .stop .alreadyStopped => "无需重复停止"
  | .stop .stopFailed => "停止失败，请查看运行状态"

/-- The results that show no failure. -/
def RuntimeActionResult.quiet : RuntimeActionResult → Bool
  | .start .started | .start .alreadyRunning | .stop .stopped | .stop .alreadyStopped => true
  | _ => false

/-- How far the page is with its first observation. -/
inductive FirstRead
  | subscribing
  | reading
  | settled
deriving DecidableEq, Repr

/-- How far `runManagedRuntimeAction` is; it knows the revision that it started from. -/
inductive RuntimeAction
  | idle
  | calling (startRevision : Int)
  | reading (startRevision : Int)
deriving DecidableEq, Repr

structure HomePage where
  observation : Option RuntimeObservation
  observationError : Bool
  /-- the observation of the last render, which the buttons refer to -/
  rendered : Option RuntimeObservation
  actionGeneration : Nat
  first : FirstRead
  action : RuntimeAction
  runtimeAction : String
  failureToast : Option String
deriving DecidableEq, Repr

namespace HomePage

def mounted : HomePage where
  observation := none
  observationError := false
  rendered := none
  actionGeneration := 0
  first := .subscribing
  action := .idle
  runtimeAction := "未操作"
  failureToast := none

/-- `actionInFlight`, and `runtimeActionPending`. -/
def actionInFlight (page : HomePage) : Bool := page.action ≠ .idle

/-- The page that calls back in its first generation. -/
def initialGeneration : Nat := mounted.actionGeneration

/-- `applyObservation`. -/
def applyObservation (page : HomePage) (next : RuntimeObservation) : HomePage :=
  let accepted := acceptNewerObservation page.observation next
  if accepted = page.observation then page
  else { page with observation := accepted, observationError := page.actionInFlight }

/-- An event comes in; one that cannot be read is dropped. -/
def hear (page : HomePage) (payload : Json) : HomePage :=
  match parseRuntimeObservation payload with
  | some next => page.applyObservation next
  | none => page

/-- The subscription or the first snapshot fails. -/
def firstFailed (page : HomePage) : HomePage :=
  { page with
    first := .settled
    observationError :=
      page.observationError || page.actionGeneration == initialGeneration }

/-- The first snapshot comes in; it counts if no action was started. -/
def firstAnswered (page : HomePage) (payload : Json) : HomePage :=
  match parseRuntimeObservation payload with
  | some next =>
    let page := { page with first := .settled }
    if page.actionGeneration = initialGeneration then page.applyObservation next else page
  | none => page.firstFailed

def render (page : HomePage) : HomePage := { page with rendered := page.observation }

/-- `runManagedRuntimeAction`, up to its command. -/
def runManagedRuntimeAction (page : HomePage) : HomePage :=
  if page.actionInFlight then page
  else { page with
    action := .calling (page.rendered.elim (-1) fun o => (o.revision : Int))
    actionGeneration := page.actionGeneration + 1
    failureToast := none
    observationError := true }

/-- The message of a result, or of a command that failed. -/
def actionMessage : Option RuntimeActionResult → String
  | some result => actionMessages result
  | none => "操作结果不可用，请查看运行状态"

/-- `runManagedRuntimeAction`, from the result of its command up to the snapshot. -/
def actionAnswered (page : HomePage) (startRevision : Int)
    (result : Option RuntimeActionResult) : HomePage :=
  { page with
    action := .reading startRevision
    runtimeAction := actionMessage result
    failureToast :=
      if result.any (·.quiet) then page.failureToast else some (actionMessage result) }

/-- The snapshot after an action fails. -/
def actionUnread (page : HomePage) : HomePage :=
  { page with action := .idle, observationError := true }

/-- The snapshot after an action comes in. -/
def actionRead (page : HomePage) (startRevision : Int) (payload : Json) : HomePage :=
  match parseRuntimeObservation payload with
  | some next =>
    { page with
      action := .idle
      observation := acceptNewerObservation page.observation next
      observationError := page.observation.any fun current =>
        next.revision < current.revision ∧ (current.revision : Int) ≤ startRevision }
  | none => page.actionUnread

/-- What the head of the page says of an observation. -/
def observationSummary : Option RuntimeObservation → String
  | none => "正在读取运行观测"
  | some observation =>
    if observation.sidecarLifecycle = .recoveryRequired then "停止未完成"
    else if observation.source = .managedSidecar ∧ observation.sidecarLifecycle = .stopped then
      "服务已停止"
    else if observation.sidecarLifecycle = .ready then "服务运行中"
    else "尚未连接运行内核"

/-- `summary`. -/
def summary (page : HomePage) : String :=
  if page.observationError then
    if page.actionInFlight then "运行状态待确认" else "运行观测不可用，当前状态待确认"
  else observationSummary page.observation

end HomePage

/-! ## The page and the process -/

/-- The page with what is on its way to it; the last three fields record what has happened. -/
structure Home where
  feed : WindowFeed
  page : HomePage
  firstReply : Option RuntimeObservationSnapshot
  actionReply : Option RuntimeObservationSnapshot
  /-- the observations that the page was offered -/
  taken : List RuntimeObservationSnapshot
  /-- the revision of the process when the last action was answered -/
  answered : Option UInt64
  /-- the snapshot after that did not come -/
  unread : Bool

inductive HomeEvent
  | window (e : WindowEvent)
  | listened
  | subscribeFailed
  | readFirst (now : UInt64)
  | firstAnswered
  | firstFailed
  | heard (index : Nat)
  | render
  | act
  | actionAnswered (result : Option RuntimeActionResult)
  | readAfter (now : UInt64)
  | actionRead
  | actionUnread

namespace Home

def start : Home where
  feed := .new
  page := .mounted
  firstReply := none
  actionReply := none
  taken := []
  answered := none
  unread := false

/-- What the process does without the page. -/
def isOwn : WindowEvent → Bool
  | .listen | .answer _ => false
  | _ => true

/-- One step of the process or of the page. -/
def step (s : Home) : HomeEvent → Option Home
  | .window e => if isOwn e then (s.feed.step e).map fun feed => { s with feed } else none
  | .listened =>
    if s.page.first = .subscribing then
      (s.feed.step .listen).map fun feed =>
        { s with feed, page := { s.page with first := .reading } }
    else none
  | .subscribeFailed =>
    if s.page.first = .subscribing then some { s with page := s.page.firstFailed } else none
  | .readFirst now =>
    if s.page.first = .reading ∧ s.firstReply = none then
      (s.feed.step (.answer now)).map fun feed =>
        { s with feed, firstReply := some feed.observations.snapshot }
    else none
  | .firstAnswered =>
    match s.firstReply with
    | none => none
    | some o =>
      if s.page.first = .reading then
        some { s with
          page := s.page.firstAnswered o.response
          firstReply := none
          taken := if s.page.actionGeneration = HomePage.initialGeneration then s.taken ++ [o]
            else s.taken }
      else none
  | .firstFailed =>
    if s.page.first = .reading then
      some { s with page := s.page.firstFailed, firstReply := none }
    else none
  | .heard index =>
    match s.feed.emitted[index]? with
    | none => none
    | some o =>
      if s.feed.listening then
        some { s with page := s.page.hear o.response, taken := s.taken ++ [o] }
      else none
  | .render => some { s with page := s.page.render }
  | .act =>
    if s.page.actionInFlight then some s
    else some { s with page := s.page.runManagedRuntimeAction, answered := none, unread := false }
  | .actionAnswered result =>
    match s.page.action with
    | .calling startRevision =>
      some { s with
        page := s.page.actionAnswered startRevision result
        answered := some s.feed.observations.snapshot.revision }
    | _ => none
  | .readAfter now =>
    match s.page.action, s.actionReply with
    | .reading _, none =>
      (s.feed.step (.answer now)).map fun feed =>
        { s with feed, actionReply := some feed.observations.snapshot }
    | _, _ => none
  | .actionRead =>
    match s.page.action, s.actionReply with
    | .reading startRevision, some o =>
      some { s with
        page := s.page.actionRead startRevision o.response
        actionReply := none
        taken := s.taken ++ [o] }
    | _, _ => none
  | .actionUnread =>
    match s.page.action with
    | .reading _ =>
      some { s with page := s.page.actionUnread, actionReply := none, unread := true }
    | _ => none

/-- The condition on the process; the page meets any. -/
def Follows (performed : Record → Prop) (s : Home) : HomeEvent → Prop
  | .window e => s.feed.Follows performed e
  | .listened => s.feed.Follows performed .listen
  | .readFirst now | .readAfter now => s.feed.Follows performed (.answer now)
  | _ => True

end Home

namespace Home

instance decidableFollows {performed : Record → Prop} [DecidablePred performed] :
    ∀ s e, Decidable (Follows performed s e)
  | s, .window e => inferInstanceAs (Decidable (s.feed.Follows performed e))
  | s, .listened => inferInstanceAs (Decidable (s.feed.Follows performed .listen))
  | s, .readFirst now | s, .readAfter now =>
    inferInstanceAs (Decidable (s.feed.Follows performed (.answer now)))
  | _, .subscribeFailed | _, .firstAnswered | _, .firstFailed | _, .heard _ | _, .render
  | _, .act | _, .actionAnswered _ | _, .actionRead | _, .actionUnread => .isTrue trivial

theorem Follows.mono {performed performed' : Record → Prop} {s : Home}
    (h : ∀ record, performed record → performed' record) {e : HomeEvent}
    (ok : s.Follows performed e) : s.Follows performed' e := by
  cases e with
  | window e => exact WindowFeed.Follows.mono h ok
  | _ => exact ok

/-- What evaluates with one performed record is a run. -/
theorem runs_of_evaluate {performed : Record → Prop} {record : Record} {s t : Home}
    {events : List HomeEvent} (hperformed : performed record)
    (h : evaluate step (fun s e => decide (s.Follows (· = record) e)) s events = some t) :
    Runs step (Follows performed) s events t :=
  .of_evaluate (fun _ _ hok => (of_decide_eq_true hok).mono fun _ heq => heq ▸ hperformed) h

end Home

/-! ## What a step does -/

namespace Home

/-- What a step can do, event by event. -/
inductive Goes (s : Home) : HomeEvent → Home → Prop
  | window {e : WindowEvent} {feed : WindowFeed} (moved : s.feed.step e = some feed) :
      s.Goes (.window e) { s with feed }
  | listened {feed : WindowFeed} (moved : s.feed.step .listen = some feed) :
      s.Goes .listened { s with feed, page := { s.page with first := .reading } }
  | subscribeFailed : s.Goes .subscribeFailed { s with page := s.page.firstFailed }
  | readFirst {now : UInt64} {feed : WindowFeed} (moved : s.feed.step (.answer now) = some feed) :
      s.Goes (.readFirst now) { s with feed, firstReply := some feed.observations.snapshot }
  | firstAnswered {o : RuntimeObservationSnapshot} (reply : s.firstReply = some o) :
      s.Goes .firstAnswered { s with
        page := s.page.firstAnswered o.response
        firstReply := none
        taken := if s.page.actionGeneration = HomePage.initialGeneration then s.taken ++ [o]
          else s.taken }
  | firstFailed : s.Goes .firstFailed { s with page := s.page.firstFailed, firstReply := none }
  | heard {index : Nat} {o : RuntimeObservationSnapshot} (emitted : o ∈ s.feed.emitted) :
      s.Goes (.heard index) { s with page := s.page.hear o.response, taken := s.taken ++ [o] }
  | render : s.Goes .render { s with page := s.page.render }
  | busy : s.Goes .act s
  | act (idle : s.page.actionInFlight = false) :
      s.Goes .act { s with
        page := s.page.runManagedRuntimeAction, answered := none, unread := false }
  | actionAnswered {startRevision : Int} {result : Option RuntimeActionResult}
      (calling : s.page.action = .calling startRevision) :
      s.Goes (.actionAnswered result) { s with
        page := s.page.actionAnswered startRevision result
        answered := some s.feed.observations.snapshot.revision }
  | readAfter {now : UInt64} {startRevision : Int} {feed : WindowFeed}
      (reading : s.page.action = .reading startRevision)
      (moved : s.feed.step (.answer now) = some feed) :
      s.Goes (.readAfter now) { s with feed, actionReply := some feed.observations.snapshot }
  | actionRead {startRevision : Int} {o : RuntimeObservationSnapshot}
      (reading : s.page.action = .reading startRevision) (reply : s.actionReply = some o) :
      s.Goes .actionRead { s with
        page := s.page.actionRead startRevision o.response
        actionReply := none
        taken := s.taken ++ [o] }
  | actionUnread {startRevision : Int} (reading : s.page.action = .reading startRevision) :
      s.Goes .actionUnread { s with
        page := s.page.actionUnread, actionReply := none, unread := true }

/-- **Inversion.** -/
theorem goes_of_step {s t : Home} {e : HomeEvent} (h : s.step e = some t) : s.Goes e t := by
  cases e with
  | render =>
    cases h
    exact .render
  | window | listened | readFirst =>
    rw [step] at h
    split at h
    · obtain ⟨feed, hfeed, rfl⟩ := Option.map_eq_some_iff.mp h
      constructor
      exact hfeed
    · cases h
  | subscribeFailed | firstFailed =>
    rw [step] at h
    split at h
    · cases h
      constructor
    · cases h
  | firstAnswered =>
    rw [step] at h
    split at h
    · cases h
    · next o ho =>
      split at h
      · cases h
        exact .firstAnswered ho
      · cases h
  | heard index =>
    rw [step] at h
    split at h
    · cases h
    · next o ho =>
      split at h
      · cases h
        exact .heard (List.mem_of_getElem? ho)
      · cases h
  | act =>
    rw [step] at h
    split at h
    · cases h
      exact .busy
    · next hidle =>
      cases h
      exact .act (by simpa using hidle)
  | actionAnswered result =>
    rw [step] at h
    split at h
    · next startRevision hcalling =>
      cases h
      exact .actionAnswered hcalling
    · cases h
  | readAfter now =>
    rw [step] at h
    split at h
    · next startRevision hreading hnone =>
      obtain ⟨feed, hfeed, rfl⟩ := Option.map_eq_some_iff.mp h
      exact .readAfter hreading hfeed
    · cases h
  | actionRead =>
    rw [step] at h
    split at h
    · next startRevision o hreading ho =>
      cases h
      exact .actionRead hreading ho
    · cases h
  | actionUnread =>
    rw [step] at h
    split at h
    · next startRevision hreading =>
      cases h
      exact .actionUnread hreading
    · cases h

end Home

namespace HomePage

variable (page : HomePage) (next : RuntimeObservation)

/-- An observation that is offered changes nothing but what is shown, and its mark. -/
theorem applyObservation_eq : ∃ observationError,
    (observationError = page.observationError ∨ observationError = page.actionInFlight) ∧
      page.applyObservation next = { page with
        observation := acceptNewerObservation page.observation next
        observationError } := by
  rw [applyObservation]
  split
  · next hkept =>
    refine ⟨page.observationError, .inl rfl, ?_⟩
    rw [hkept]
  · exact ⟨page.actionInFlight, .inr rfl, rfl⟩

end HomePage

/-! ## The invariant -/

namespace Home

variable {s t : Home} {performed : Record → Prop} {o : RuntimeObservationSnapshot}

/-- The revision of the process. -/
def revision (s : Home) : UInt64 := s.feed.observations.snapshot.revision

/-- The observation is one that the process had. -/
def Past (s : Home) (o : RuntimeObservationSnapshot) : Prop := s.feed.observations.snapshot.Past o

/-- What is known in each phase of an action. -/
def ActionSound (s : Home) : Prop :=
  match s.page.action with
  | .idle => s.actionReply = none ∧
      (s.unread = false → ∀ revision, s.answered = some revision →
        s.page.observationError = false ∧
          ∃ o, s.page.observation = some o ∧ revision.toNat ≤ o.revision)
  | .calling startRevision => s.actionReply = none ∧ startRevision ≤ s.revision.toNat
  | .reading startRevision => ∃ revision, s.answered = some revision ∧
      startRevision ≤ revision.toNat ∧
      ∀ o, s.actionReply = some o → revision ≤ o.revision

structure Sound (s : Home) : Prop where
  feed : s.feed.Sound
  reaches : s.feed.Reaches
  taken : ∀ o ∈ s.taken, s.Past o
  firstReply : ∀ o, s.firstReply = some o → s.Past o
  actionReply : ∀ o, s.actionReply = some o → s.Past o
  /-- the page shows the newest that it was offered -/
  shown : s.page.observation = (s.taken.map .of).argmax RuntimeObservation.version
  rendered : ∀ o, s.page.rendered = some o → o.revision ≤ s.revision.toNat
  answered : ∀ revision, s.answered = some revision → revision ≤ s.revision
  marked : s.page.actionInFlight = true → s.page.observationError = true
  fresh : s.page.actionGeneration = HomePage.initialGeneration →
    s.page.action = .idle ∧ s.answered = none
  action : s.ActionSound

theorem Sound.start : start.Sound where
  feed := .new
  reaches h := by cases h
  taken o ho := by cases ho
  firstReply o ho := by cases ho
  actionReply o ho := by cases ho
  shown := rfl
  rendered o ho := by cases ho
  answered o ho := by cases ho
  marked h := by cases h
  fresh _ := ⟨rfl, rfl⟩
  action := ⟨rfl, fun _ _ h => by cases h⟩

/-- Everything that reaches the page can be read. -/
theorem Sound.parse (h : s.Sound) (ho : s.Past o) :
    parseRuntimeObservation o.response = some (.of o) := by
  have hrevision := UInt64.le_trans ho.revision h.feed.revision
  have hobserved := UInt64.le_trans ho.observedAtMs h.feed.observedAtMs
  exact (parseRuntimeObservation_response ho.consistent).eq_some
    ⟨safe_toNat hrevision, safe_toNat hobserved⟩

/-- What the page shows is an observation that the process had. -/
theorem Sound.of_shown (h : s.Sound) {shown : RuntimeObservation}
    (hshown : s.page.observation = some shown) : ∃ o ∈ s.taken, shown = .of o := by
  rw [h.shown] at hshown
  obtain ⟨o, ho, hof⟩ := List.mem_map.mp (List.argmax_mem hshown)
  exact ⟨o, ho, hof.symm⟩

theorem Sound.shown_le (h : s.Sound) {shown : RuntimeObservation}
    (hshown : s.page.observation = some shown) : shown.revision ≤ s.revision.toNat := by
  obtain ⟨o, ho, rfl⟩ := h.of_shown hshown
  exact UInt64.le_iff_toNat_le.mp (h.taken o ho).revision

/-- The process takes a step that the page does not see. -/
theorem Sound.withFeed (h : s.Sound) {feed : WindowFeed} {e : WindowEvent}
    (hperformed : ∀ record, performed record → record.Sound Veyra.maxSafeInteger)
    (ok : s.feed.Follows performed e)
    (hfeed : s.feed.step e = some feed) : ({ s with feed } : Home).Sound := by
  have hpast : ∀ o, s.Past o → ({ s with feed } : Home).Past o := fun o ho =>
    WindowFeed.past_step ho ok hfeed
  have hrevision : s.revision ≤ ({ s with feed } : Home).revision :=
    (hpast _ (.self h.feed.current)).revision
  have hle := UInt64.le_iff_toNat_le.mp hrevision
  refine { h with
    feed := h.feed.step hperformed ok hfeed
    reaches := h.reaches.step h.feed hfeed
    taken := fun o ho => hpast o (h.taken o ho)
    firstReply := fun o ho => hpast o (h.firstReply o ho)
    actionReply := fun o ho => hpast o (h.actionReply o ho)
    rendered := fun o ho => (h.rendered o ho).trans hle
    answered := fun revision ho => UInt64.le_trans (h.answered revision ho) hrevision
    action := ?_ }
  have haction := h.action
  unfold ActionSound at haction ⊢
  dsimp only
  split
  · next hidle =>
    rw [hidle] at haction
    exact haction
  · next hcalling =>
    rw [hcalling] at haction
    exact ⟨haction.1, haction.2.trans (by exact_mod_cast hle)⟩
  · next hreading =>
    rw [hreading] at haction
    exact haction

/-- The page shows the newest of what it was offered. -/
theorem shown_append (h : s.Sound) (o : RuntimeObservationSnapshot) :
    acceptNewerObservation s.page.observation (.of o) =
      ((s.taken ++ [o]).map .of).argmax RuntimeObservation.version := by
  rw [h.shown, acceptNewer_argmax, List.map_append, List.map_singleton]

theorem taken_append (h : s.Sound) (ho : s.Past o) : ∀ o' ∈ s.taken ++ [o], s.Past o' := by
  intro o' ho'
  obtain hold | hnew := List.mem_append.mp ho'
  · exact h.taken o' hold
  · exact List.mem_singleton.mp hnew ▸ ho

/-- An observation is offered to the page. -/
theorem Sound.offered (h : s.Sound) (ho : s.Past o) :
    ({ s with page := s.page.applyObservation (.of o), taken := s.taken ++ [o] } : Home).Sound := by
  obtain ⟨observationError, herror, hpage⟩ := s.page.applyObservation_eq (.of o)
  rw [hpage]
  refine { h with
    taken := taken_append h ho
    shown := shown_append h o
    marked := fun hflight => ?_
    action := ?_ }
  · have hmarked := h.marked hflight
    have hflight : s.page.actionInFlight = true := hflight
    obtain rfl | rfl := herror
    · exact hmarked
    · exact hflight
  · have haction := h.action
    unfold ActionSound at haction ⊢
    dsimp only
    split
    · next hidle =>
      rw [hidle] at haction
      refine ⟨haction.1, fun hread revision hanswered => ?_⟩
      obtain ⟨hclear, shown, hshown, hle⟩ := haction.2 hread revision hanswered
      constructor
      · obtain rfl | rfl := herror
        · exact hclear
        · rw [HomePage.actionInFlight, hidle]
          rfl
      · -- what was shown before is not older than what is shown now
        have hnewest := shown_append h o
        have hmem : shown ∈ ((s.taken ++ [o]).map RuntimeObservation.of) := by
          obtain ⟨o', ho', rfl⟩ := h.of_shown hshown
          exact List.mem_map_of_mem (List.mem_append_left _ ho')
        rw [hshown] at hnewest ⊢
        obtain ⟨accepted, haccepted, -⟩ := acceptNewer_le (some shown) (.of o)
        rw [haccepted] at hnewest
        refine ⟨accepted, haccepted, hle.trans ?_⟩
        exact revision_le_of_version (List.le_of_mem_argmax hmem hnewest.symm)
    · next hcalling =>
      rw [hcalling] at haction
      exact haction
    · next hreading =>
      rw [hreading] at haction
      exact haction

/-- The first snapshot is there, or it is not to be. -/
theorem Sound.settled (h : s.Sound) (first : FirstRead)
    (firstReply : Option RuntimeObservationSnapshot)
    (hreply : ∀ o, firstReply = some o → s.Past o) :
    ({ s with page := { s.page with first }, firstReply } : Home).Sound :=
  { h with firstReply := hreply }

theorem Sound.firstFailed (h : s.Sound) (firstReply : Option RuntimeObservationSnapshot)
    (hreply : ∀ o, firstReply = some o → s.Past o) :
    ({ s with page := s.page.firstFailed, firstReply } : Home).Sound := by
  refine { h with firstReply := hreply, marked := fun hflight => ?_, action := ?_ }
  · have hmarked : s.page.observationError = true := h.marked hflight
    simp only [HomePage.firstFailed, hmarked, Bool.true_or]
  · have haction := h.action
    unfold ActionSound at haction ⊢
    simp only [HomePage.firstFailed]
    split
    · next hidle =>
      rw [hidle] at haction
      refine ⟨haction.1, fun hread revision hanswered => ?_⟩
      obtain ⟨hclear, hshown⟩ := haction.2 hread revision hanswered
      refine ⟨?_, hshown⟩
      have hlater : s.page.actionGeneration ≠ HomePage.initialGeneration := fun hfirst => by
        rw [(h.fresh hfirst).2] at hanswered
        cases hanswered
      rw [hclear, Bool.false_or]
      exact beq_false_of_ne hlater
    · next hcalling =>
      rw [hcalling] at haction
      exact haction
    · next hreading =>
      rw [hreading] at haction
      exact haction

theorem Sound.firstAnswered (h : s.Sound) (ho : s.firstReply = some o) :
    ({ s with
        page := s.page.firstAnswered o.response
        firstReply := none
        taken := if s.page.actionGeneration = HomePage.initialGeneration then s.taken ++ [o]
          else s.taken } : Home).Sound := by
  have hpast := h.firstReply o ho
  have hsettled := h.settled .settled none fun o ho => by cases ho
  rw [HomePage.firstAnswered, h.parse hpast]
  dsimp only
  split
  · exact hsettled.offered hpast
  · exact hsettled

theorem Sound.act (h : s.Sound) (hidle : s.page.actionInFlight = false) :
    ({ s with
        page := s.page.runManagedRuntimeAction
        answered := none
        unread := false } : Home).Sound := by
  have hrendered := h.rendered
  have haction := h.action
  have hphase : s.page.action = .idle := by simpa [HomePage.actionInFlight] using hidle
  have hpage : s.page.runManagedRuntimeAction = { s.page with
      action := .calling (s.page.rendered.elim (-1) fun o => (o.revision : Int))
      actionGeneration := s.page.actionGeneration + 1
      failureToast := none
      observationError := true } := if_neg (by rw [hidle]; decide)
  rw [hpage]
  refine { h with
    answered := fun _ ho => (by cases ho)
    marked := fun _ => rfl
    fresh := fun hfirst => absurd hfirst (Nat.succ_ne_zero _)
    action := ?_ }
  unfold ActionSound at haction
  rw [hphase] at haction
  refine ⟨haction.1, ?_⟩
  cases ho : s.page.rendered with
  | none =>
    have hnone : ((none : Option RuntimeObservation).elim (-1) fun o => (o.revision : Int)) = -1 :=
      rfl
    rw [hnone]
    omega
  | some o => exact Int.ofNat_le.mpr (hrendered o ho)

theorem Sound.actionAnswered (h : s.Sound) {startRevision : Int}
    (hcalling : s.page.action = .calling startRevision) (result : Option RuntimeActionResult) :
    ({ s with
        page := s.page.actionAnswered startRevision result
        answered := some s.revision } : Home).Sound := by
  have haction := h.action
  unfold ActionSound at haction
  rw [hcalling] at haction
  have hflight : s.page.actionInFlight = true := by simp [HomePage.actionInFlight, hcalling]
  have hmarked : s.page.observationError = true := h.marked hflight
  refine { h with
    answered := ?_
    marked := fun _ => hmarked
    fresh := fun hfirst => ?_
    action := ⟨s.revision, rfl, haction.2, fun o ho => ?_⟩ }
  · intro revision hanswered
    cases hanswered
    exact UInt64.le_refl _
  · have hidle := (h.fresh hfirst).1
    rw [hcalling] at hidle
    cases hidle
  · have hreply : s.actionReply = some o := ho
    rw [haction.1] at hreply
    cases hreply

theorem Sound.actionUnread (h : s.Sound) {startRevision : Int}
    (hreading : s.page.action = .reading startRevision) :
    ({ s with page := s.page.actionUnread, actionReply := none, unread := true } : Home).Sound := by
  refine { h with
    actionReply := fun _ ho => (by cases ho)
    marked := fun hflight => (by cases hflight)
    fresh := fun hfirst => ?_
    action := ⟨rfl, fun hread => by cases hread⟩ }
  have hidle := (h.fresh hfirst).1
  rw [hreading] at hidle
  cases hidle

/-- The snapshot after an action is newer than all before it: the page confirms what it shows. -/
theorem Sound.actionRead (h : s.Sound) {startRevision : Int}
    (hreading : s.page.action = .reading startRevision) (ho : s.actionReply = some o) :
    ({ s with
        page := s.page.actionRead startRevision o.response
        actionReply := none
        taken := s.taken ++ [o] } : Home).Sound := by
  have hpast := h.actionReply o ho
  have haction := h.action
  unfold ActionSound at haction
  rw [hreading] at haction
  obtain ⟨revision, hanswered, hstart, hreply⟩ := haction
  have hafter := UInt64.le_iff_toNat_le.mp (hreply o ho)
  rw [HomePage.actionRead, h.parse hpast]
  refine { h with
    actionReply := fun _ ho => (by cases ho)
    taken := taken_append h hpast
    shown := shown_append h o
    marked := fun hflight => (by cases hflight)
    fresh := fun hfirst => ?_
    action := ⟨rfl, fun _ revision' hanswered' => ⟨?_, ?_⟩⟩ }
  · have hidle := (h.fresh hfirst).1
    rw [hreading] at hidle
    cases hidle
  · -- a page that is newer than the snapshot is newer than the start of the action
    dsimp only
    rw [Option.any_eq_false]
    intro current _
    rw [decide_eq_false_iff_not]
    rintro ⟨hnewer, hold⟩
    have hof : (RuntimeObservation.of o).revision = o.revision.toNat := rfl
    omega
  · have hrevision : revision = revision' := Option.some.inj (hanswered.symm.trans hanswered')
    obtain ⟨accepted, haccepted, hle⟩ := acceptNewer_le s.page.observation (.of o)
    exact ⟨accepted, haccepted, hrevision ▸ hafter.trans hle⟩

/-- The snapshot after an action is read: it is of no older revision than the answer. -/
theorem Sound.readAfter (h : s.Sound) {startRevision : Int}
    (hreading : s.page.action = .reading startRevision) :
    ({ s with actionReply := some s.feed.observations.snapshot } : Home).Sound := by
  have haction := h.action
  unfold ActionSound at haction
  rw [hreading] at haction
  obtain ⟨revision, hanswered, hstart, -⟩ := haction
  refine { h with actionReply := fun o ho => ?_, action := ?_ }
  · cases ho
    exact .self h.feed.current
  · unfold ActionSound
    dsimp only
    rw [hreading]
    refine ⟨revision, hanswered, hstart, fun o ho => ?_⟩
    cases ho
    exact h.answered revision hanswered

/-- **Step lemma.** -/
theorem Sound.step
    (hperformed : ∀ record, performed record → record.Sound Veyra.maxSafeInteger) (h : s.Sound)
    {e : HomeEvent} (ok : s.Follows performed e) (hs : s.step e = some t) : t.Sound := by
  have hgoes := goes_of_step hs
  cases hgoes with
  | window moved => exact h.withFeed hperformed ok moved
  | listened moved =>
    have ok : s.feed.Follows performed .listen := ok
    have hnext := h.withFeed hperformed ok moved
    exact hnext.settled .reading s.firstReply hnext.firstReply
  | subscribeFailed => exact h.firstFailed s.firstReply h.firstReply
  | @readFirst now feed moved =>
    have ok : s.feed.Follows performed (.answer now) := ok
    have hnext := h.withFeed hperformed ok moved
    refine { hnext with firstReply := fun o ho => ?_ }
    cases ho
    exact .self hnext.feed.current
  | firstAnswered reply => exact h.firstAnswered reply
  | firstFailed => exact h.firstFailed none fun o ho => by cases ho
  | heard emitted =>
    have hpast := h.feed.past _ (WindowFeed.mem_sent.mpr (.inr (.inl emitted)))
    rw [HomePage.hear, h.parse hpast]
    exact h.offered hpast
  | render => exact { h with rendered := fun o ho => h.shown_le ho }
  | busy => exact h
  | act idle => exact h.act idle
  | actionAnswered calling => exact h.actionAnswered calling _
  | @readAfter now startRevision feed reading moved =>
    have ok : s.feed.Follows performed (.answer now) := ok
    exact (h.withFeed hperformed ok moved).readAfter reading
  | actionRead reading reply => exact h.actionRead reading reply
  | actionUnread reading => exact h.actionUnread reading

/-- **Run lemma.** -/
theorem sound_of_run {events : List HomeEvent}
    (hperformed : ∀ record, performed record → record.Sound Veyra.maxSafeInteger)
    (run : Runs step (Follows performed) start events s) : s.Sound :=
  run.invariant Sound Sound.start fun _ _ _ h ok hs => h.step hperformed ok hs

/-- The page forgets nothing of what it was offered. -/
theorem taken_step {e : HomeEvent} (hs : s.step e = some t) : s.taken ⊆ t.taken := by
  have hgoes := goes_of_step hs
  cases hgoes with
  | firstAnswered =>
    dsimp only
    split
    · exact List.subset_append_left _ _
    · exact List.Subset.refl _
  | heard | actionRead => exact List.subset_append_left _ _
  | _ => exact List.Subset.refl _

theorem taken_of_run {events : List HomeEvent} (run : Runs step (Follows performed) s events t) :
    s.taken ⊆ t.taken :=
  run.invariant (s.taken ⊆ ·.taken) (List.Subset.refl _) fun _ _ _ h _ hs =>
    List.Subset.trans h (taken_step hs)

/-! ### Where observations come from -/

/-- The observation has reached the page, or is on its way to it. -/
def Reached (s : Home) (o : RuntimeObservationSnapshot) : Prop :=
  o ∈ s.feed.sent ∨ s.firstReply = some o ∨ s.actionReply = some o ∨ o ∈ s.taken

/-- Nothing else reaches the page than what the process has. -/
theorem reached_step {e : HomeEvent} (hs : s.step e = some t) (ho : t.Reached o) :
    s.Reached o ∨ t.feed.observations.snapshot = o := by
  have hfeed : ∀ {e : WindowEvent} {feed : WindowFeed}, s.feed.step e = some feed →
      o ∈ feed.sent → s.Reached o ∨ feed.observations.snapshot = o := fun moved hsent =>
    (WindowFeed.sent_step moved hsent).imp_left .inl
  have hgoes := goes_of_step hs
  cases hgoes with
  | window moved | listened moved =>
    obtain ho | ho := ho
    · exact hfeed moved ho
    · exact .inl (.inr ho)
  | readFirst moved =>
    obtain ho | ho | ho := ho
    · exact hfeed moved ho
    · exact .inr (Option.some.inj ho)
    · exact .inl (.inr (.inr ho))
  | readAfter reading moved =>
    obtain ho | ho | ho | ho := ho
    · exact hfeed moved ho
    · exact .inl (.inr (.inl ho))
    · exact .inr (Option.some.inj ho)
    · exact .inl (.inr (.inr (.inr ho)))
  | firstAnswered reply =>
    obtain ho | ho | ho | ho := ho
    · exact .inl (.inl ho)
    · cases ho
    · exact .inl (.inr (.inr (.inl ho)))
    · split at ho
      · obtain ho | ho := List.mem_append.mp ho
        · exact .inl (.inr (.inr (.inr ho)))
        · exact .inl (.inr (.inl (List.mem_singleton.mp ho ▸ reply)))
      · exact .inl (.inr (.inr (.inr ho)))
  | heard emitted =>
    obtain ho | ho | ho | ho := ho
    · exact .inl (.inl ho)
    · exact .inl (.inr (.inl ho))
    · exact .inl (.inr (.inr (.inl ho)))
    · obtain ho | ho := List.mem_append.mp ho
      · exact .inl (.inr (.inr (.inr ho)))
      · exact .inl (.inl (WindowFeed.mem_sent.mpr (.inr (.inl (List.mem_singleton.mp ho ▸ emitted)))))
  | actionRead reading reply =>
    obtain ho | ho | ho | ho := ho
    · exact .inl (.inl ho)
    · exact .inl (.inr (.inl ho))
    · cases ho
    · obtain ho | ho := List.mem_append.mp ho
      · exact .inl (.inr (.inr (.inr ho)))
      · exact .inl (.inr (.inr (.inl (List.mem_singleton.mp ho ▸ reply))))
  | firstFailed =>
    obtain ho | ho | ho := ho
    · exact .inl (.inl ho)
    · cases ho
    · exact .inl (.inr (.inr ho))
  | actionUnread =>
    obtain ho | ho | ho | ho := ho
    · exact .inl (.inl ho)
    · exact .inl (.inr (.inl ho))
    · cases ho
    · exact .inl (.inr (.inr (.inr ho)))
  | _ => exact .inl ho

/-- The process had the observation in a state that the run has passed. -/
def Had (ok : Home → HomeEvent → Prop) (events : List HomeEvent) (s : Home)
    (o : RuntimeObservationSnapshot) : Prop :=
  ∃ earlier later past, events = earlier ++ later ∧ Runs step ok start earlier past ∧
    Runs step ok past later s ∧ past.feed.observations.snapshot = o

/-- **Run lemma.**  What the page was offered the process had. -/
theorem had_of_run {ok : Home → HomeEvent → Prop} {events : List HomeEvent}
    (run : Runs step ok start events s) (ho : o ∈ s.taken) : s.Had ok events o := by
  obtain hstart | hhad := run.origin Reached (fun s o => s.feed.observations.snapshot = o)
    (fun _ _ _ _ _ hs ho => reached_step hs ho) (.inr (.inr (.inr ho)))
  · obtain hsent | hfirst | hreply | htaken := hstart
    · cases hsent
    · cases hfirst
    · cases hreply
    · cases htaken
  · exact hhad

/-! ## Arrival -/

/-- Everything on its way has arrived: the window is visible, the page was offered every event
since it listens and a snapshot that was read for it since, and no thread still has a delta for
the sink. -/
structure Arrived (s : Home) : Prop where
  listening : s.feed.listening = true
  visible : s.feed.visible = true
  restored : s.feed.restoring = 0
  published : s.feed.observations.owed = []
  heard : ∀ o ∈ s.feed.emitted, o ∈ s.taken
  read : ∃ o ∈ s.feed.answers, o ∈ s.taken

/-- The latest update is among what the page was offered. -/
theorem Arrived.latest (h : s.Arrived) (hs : s.Sound) :
    ∃ o ∈ s.taken, o.revision = s.revision := by
  obtain hfresh | ⟨o, ho, hrevision⟩ | hhidden | hrestoring := hs.reaches h.listening
  · obtain ⟨o, hanswer, htaken⟩ := h.read
    exact ⟨o, htaken, hfresh o hanswer⟩
  · rw [h.published, List.nil_append] at ho
    exact ⟨o, h.heard o ho, hrevision⟩
  · rw [h.visible] at hhidden
    cases hhidden
  · rw [h.restored] at hrestoring
    cases hrestoring

/-- The page shows an observation of the latest update. -/
theorem Arrived.shows (h : s.Arrived) (hs : s.Sound) :
    ∃ o, s.page.observation = some (.of o) ∧
      o.read s.feed.observations.snapshot.observedAtMs = s.feed.observations.snapshot := by
  obtain ⟨latest, htaken, hlatest⟩ := h.latest hs
  have hmem : RuntimeObservation.of latest ∈ s.taken.map RuntimeObservation.of :=
    List.mem_map_of_mem htaken
  cases hshown : s.page.observation with
  | none =>
    have hnone := hs.shown.symm.trans hshown
    rw [List.argmax_eq_none.mp hnone] at hmem
    cases hmem
  | some shown =>
    obtain ⟨o, ho, rfl⟩ := hs.of_shown hshown
    have hpast := hs.taken o ho
    have hnewest := List.le_of_mem_argmax hmem (hs.shown.symm.trans hshown)
    have hle : latest.revision ≤ o.revision :=
      UInt64.le_iff_toNat_le.mpr (revision_le_of_version hnewest)
    rw [hlatest] at hle
    exact ⟨o, rfl, hpast.same (UInt64.le_antisymm hpast.revision hle)⟩

end Home

/-- A read changes nothing that the head of the page names. -/
theorem observationSummary_read (o : RuntimeObservationSnapshot) (now : UInt64) :
    HomePage.observationSummary (some (.of (o.read now))) =
      HomePage.observationSummary (some (.of o)) := rfl

theorem performed_managedStopped : ManagedRuntime.Performed plainEnv .managedStopped :=
  ⟨[.stop], _, Runs.refl.tail ⟨trivial, trivial⟩ rfl, List.mem_cons_self⟩

section Runs

variable {P Bytes Value : Type} [DecidableEq Value] (env : RuntimeEnv P Bytes Value)
  {events : List HomeEvent} {s : Home}

/-- **The page settles.**  Whatever the threads of the runtime record, in whatever order they hand
their deltas over, whenever the window is hidden and shown and whatever the user does: once
everything on its way has arrived, the page shows the runtime as it is. -/
theorem home_page_settles
    (run : Runs Home.step (Home.Follows (ManagedRuntime.Performed env)) .start events s)
    (arrived : s.Arrived) :
    (∃ o, s.page.observation = some (.of o) ∧
      o.read s.feed.observations.snapshot.observedAtMs = s.feed.observations.snapshot) ∧
    (s.page.observationError = false →
      s.page.summary = HomePage.observationSummary (some (.of s.feed.observations.snapshot))) := by
  have hs := Home.sound_of_run (fun _ hperformed => hperformed.sound) run
  obtain ⟨o, hshown, hread⟩ := arrived.shows hs
  refine ⟨⟨o, hshown, hread⟩, fun hclear => ?_⟩
  rw [← hread, observationSummary_read, HomePage.summary, hclear, hshown]
  rfl

/-- Two threads hand their deltas over in the other order: the page shows the second update. -/
theorem home_page_settles_crossed : ∃ s : Home,
    s.feed.emitted.map (·.revision) = [2, 1] ∧
      (∃ o, s.page.observation = some (.of o) ∧
        o.read s.feed.observations.snapshot.observedAtMs = s.feed.observations.snapshot) ∧
      (s.page.observationError = false →
        s.page.summary = HomePage.observationSummary (some (.of s.feed.observations.snapshot))) := by
  have run : Runs Home.step (Home.Follows (ManagedRuntime.Performed plainEnv)) .start
      [.window (.observe .install), .listened, .readFirst 1, .firstAnswered,
        .window (.observe (.update 2 .managedStopped)),
        .window (.observe (.update 3 .managedStopped)),
        .window (.observe (.lock 1)), .window (.observe (.unlock 1)), .window (.observe (.call 1)),
        .window (.observe (.lock 0)), .window (.observe (.unlock 0)), .window (.observe (.call 0)),
        .heard 0, .heard 1] _ := Home.runs_of_evaluate performed_managedStopped rfl
  exact ⟨_, rfl, home_page_settles plainEnv run ⟨rfl, rfl, rfl, rfl, by decide, by decide⟩⟩

/-- **The page shows the newest observation.**  It shows the newest of all that it was offered,
each the snapshot of the process in a state that the run has passed, and read as it was sent; and
it never goes back to an older one, though events come in any order, late, more than once or
never. -/
theorem home_page_newest {more : List HomeEvent} {t : Home}
    (run : Runs Home.step (Home.Follows (ManagedRuntime.Performed env)) .start events s)
    (rest : Runs Home.step (Home.Follows (ManagedRuntime.Performed env)) s more t) :
    s.page.observation = (s.taken.map .of).argmax RuntimeObservation.version ∧
    (∀ o ∈ s.taken, s.Had (Home.Follows (ManagedRuntime.Performed env)) events o ∧
      o.Consistent ∧ parseRuntimeObservation o.response = some (.of o) ∧
      (o.revision = s.revision →
        o.read s.feed.observations.snapshot.observedAtMs = s.feed.observations.snapshot)) ∧
    ∀ o, s.page.observation = some o →
      ∃ o', t.page.observation = some o' ∧ o.version ≤ o'.version := by
  have hs := Home.sound_of_run (fun _ hperformed => hperformed.sound) run
  have ht := Home.sound_of_run (fun _ hperformed => hperformed.sound) (run.append rest)
  refine ⟨hs.shown, fun o ho => ?_, fun shown hshown => ?_⟩
  · have hpast := hs.taken o ho
    exact ⟨Home.had_of_run run ho, hpast.consistent, hs.parse hpast, hpast.same⟩
  · obtain ⟨o, ho, rfl⟩ := hs.of_shown hshown
    have hmem : RuntimeObservation.of o ∈ t.taken.map RuntimeObservation.of :=
      List.mem_map_of_mem (Home.taken_of_run rest ho)
    cases hlater : t.page.observation with
    | none =>
      rw [List.argmax_eq_none.mp (ht.shown.symm.trans hlater)] at hmem
      cases hmem
    | some later =>
      exact ⟨later, rfl, List.le_of_mem_argmax hmem (ht.shown.symm.trans hlater)⟩

/-- What the page does first, and an event of the update after that. -/
def lateEvents : List HomeEvent :=
  [.window (.observe .install), .listened, .readFirst 1,
    .window (.observe (.update 2 .managedStopped)), .window (.observe (.lock 0)),
    .window (.observe (.unlock 0)), .window (.observe (.call 0)), .heard 0]

/-- The snapshot that was read first comes in after an event that is newer. -/
theorem home_page_newest_late : ∃ s t : Home, t.taken.map (·.revision) = [1, 0] ∧
    s.page.observation = (s.taken.map .of).argmax RuntimeObservation.version ∧
    (∀ o ∈ s.taken, s.Had (Home.Follows (ManagedRuntime.Performed plainEnv)) lateEvents o ∧
      o.Consistent ∧ parseRuntimeObservation o.response = some (.of o) ∧
      (o.revision = s.revision →
        o.read s.feed.observations.snapshot.observedAtMs = s.feed.observations.snapshot)) ∧
    ∀ o, s.page.observation = some o →
      ∃ o', t.page.observation = some o' ∧ o.version ≤ o'.version := by
  have run : Runs Home.step (Home.Follows (ManagedRuntime.Performed plainEnv)) .start
      lateEvents _ := Home.runs_of_evaluate performed_managedStopped rfl
  exact ⟨_, _, rfl, home_page_newest plainEnv run (Home.runs_of_evaluate performed_managedStopped
    (rfl : evaluate Home.step _ _ [.firstAnswered] = some _))⟩

/-- **An action is confirmed by a later observation.**  While the runtime is being started or
stopped the page says that the state is unconfirmed; when the snapshot after that has come, the
page shows an observation from after the action was answered, and says so. -/
theorem action_confirmed
    (run : Runs Home.step (Home.Follows (ManagedRuntime.Performed env)) .start events s) :
    (s.page.actionInFlight = true → s.page.summary = "运行状态待确认") ∧
    (s.page.actionInFlight = false → s.unread = false → ∀ revision, s.answered = some revision →
      ∃ o ∈ s.taken, s.page.observation = some (.of o) ∧ revision ≤ o.revision ∧
        s.page.summary = HomePage.observationSummary (some (.of o))) := by
  have hs := Home.sound_of_run (fun _ hperformed => hperformed.sound) run
  constructor
  · intro hflight
    rw [HomePage.summary, hs.marked hflight, hflight]
    rfl
  · intro hidle hread revision hanswered
    have hphase : s.page.action = .idle := by simpa [HomePage.actionInFlight] using hidle
    have haction := hs.action
    unfold Home.ActionSound at haction
    rw [hphase] at haction
    obtain ⟨hclear, shown, hshown, hle⟩ := haction.2 hread revision hanswered
    obtain ⟨o, ho, rfl⟩ := hs.of_shown hshown
    refine ⟨o, ho, hshown, UInt64.le_iff_toNat_le.mpr hle, ?_⟩
    rw [HomePage.summary, hclear, hshown]
    rfl

/-- The runtime is stopped from the page. -/
theorem action_confirmed_stopped : ∃ s : Home, s.page.summary = "服务已停止" ∧
    (s.page.actionInFlight = true → s.page.summary = "运行状态待确认") ∧
    (s.page.actionInFlight = false → s.unread = false → ∀ revision, s.answered = some revision →
      ∃ o ∈ s.taken, s.page.observation = some (.of o) ∧ revision ≤ o.revision ∧
        s.page.summary = HomePage.observationSummary (some (.of o))) := by
  have run : Runs Home.step (Home.Follows (ManagedRuntime.Performed plainEnv)) .start
      [.window (.observe .install), .listened, .readFirst 1, .firstAnswered, .render, .act,
        .window (.observe (.update 2 .managedStopped)), .actionAnswered (some (.stop .stopped)),
        .readAfter 3, .actionRead] _ := Home.runs_of_evaluate performed_managedStopped rfl
  exact ⟨_, rfl, action_confirmed plainEnv run⟩

end Runs

end Veyra.Frontend
