import Veyra.Application.Content
import Veyra.Lib.Slot
import Veyra.Subscription.Base64Wrapping

/-!
# Veyra.Application.DocumentWork

The bounded worker of the document editor: `format_document` and
`parse_exact_document`, from any number of threads at once.

`run_bounded` lets one document be worked on at a time, in a thread that is
not stopped when its caller gives up.  Each answer is the one that the call
gets on its own, with the error of the worker in place of a result that it
could not wait for.

The writers of JSON and YAML text are parameters.
-/

namespace Veyra

open Check Transition

/-! ## Formatting -/

/-- `serde_json::to_string_pretty`, and reading and writing a YAML document. -/
structure DocumentWriters where
  json : Json → Option String
  yaml : String → Option String

/-- The text of a document as it is written out again. -/
def rewritten (readers : DocumentReaders) (writers : DocumentWriters) (content : String) :
    SubscriptionDocumentFormat → Option String
  | .json => (readers.json content).bind writers.json
  | .yaml => writers.yaml content

/-- `format_document`; `worker` is the error of the bounded worker, as for
`parseExactDocument`. -/
def formatDocument (readers : DocumentReaders) (writers : DocumentWriters)
    (worker : Option DocumentErrorCode) (content : String) (format : SubscriptionDocumentFormat) :
    Except DocumentErrorCode String := do
  validateInputSize content
  match worker with
  | some error => .error error
  | none => do
    let formatted ← okOr (rewritten readers writers content format) .formatFailed
    validateInputSize formatted
    .ok formatted

/-! ## Calls -/

inductive DocumentCall
  | format (content : String) (format : SubscriptionDocumentFormat)
  | parse (content : String) (format : SubscriptionDocumentFormat)

inductive DocumentReply
  | formatted (content : String)
  | parsed (result : ParseResult)

namespace DocumentCall

def content : DocumentCall → String
  | .format content _ | .parse content _ => content

/-- What a call returns, given the error of the worker. -/
def reply (readers : DocumentReaders) (writers : DocumentWriters)
    (worker : Option DocumentErrorCode) : DocumentCall → Except DocumentErrorCode DocumentReply
  | .format content declared =>
    (formatDocument readers writers worker content declared).map .formatted
  | .parse content declared => (parseExactDocument readers worker content declared).map .parsed

variable {readers : DocumentReaders} {writers : DocumentWriters} {call : DocumentCall}

/-- A document of the right size whose worker failed is answered with the error of the worker. -/
theorem reply_failed (hsize : validateInputSize call.content = .ok ()) (error : DocumentErrorCode) :
    call.reply readers writers (some error) = .error error := by
  cases call with
  | format content declared =>
    have hcall : formatDocument readers writers (some error) content declared = .error error := by
      have hsize : validateInputSize content = .ok () := hsize
      rw [formatDocument, hsize]
      rfl
    rw [reply, hcall]
    rfl
  | parse content declared =>
    have hcall : parseExactDocument readers (some error) content declared = .error error := by
      have hsize : validateInputSize content = .ok () := hsize
      rw [parseExactDocument, hsize]
      rfl
    rw [reply, hcall]
    rfl

end DocumentCall

/-! ## The worker -/

section Worker

variable {I : Type} (readers : DocumentReaders) (writers : DocumentWriters)
  (calls : I → DocumentCall) (panics : I → Bool)

/-- What `run_bounded` makes of its worker, before the result of the work. -/
def boundedAnswer :
    Slot.Answer (Except DocumentErrorCode DocumentReply) → Except DocumentErrorCode DocumentReply
  | .busy => .error .busy
  | .notStarted | .lost => .error .formatFailed
  | .timedOut => .error .operationTimedOut
  | .answered reply => reply

/-- The error of the worker, unless it answered. -/
def workerError {ρ : Type} : Slot.Answer ρ → Option DocumentErrorCode
  | .busy => some .busy
  | .notStarted | .lost => some .formatFailed
  | .timedOut => some .operationTimedOut
  | .answered _ => none

/-- The closures that are handed to `run_bounded`. -/
def documentJobs (i : I) : Option (Except DocumentErrorCode DocumentReply) :=
  if panics i then none else some ((calls i).reply readers writers none)

/-- Only documents of the right size are handed to the worker. -/
def Admits (_ : Slot.State I (Except DocumentErrorCode DocumentReply)) (e : Slot.Event I) : Prop :=
  ∀ i, e = .enter i → validateInputSize (calls i).content = .ok ()

variable [DecidableEq I]

/-- What holds of the calls at any time. -/
structure DocumentsBounded (s : Slot.State I (Except DocumentErrorCode DocumentReply)) : Prop where
  /-- One document is worked on at a time. -/
  exclusive : ∀ i j, s.Occupied i → s.Occupied j → i = j
  /-- A call is turned away exactly while another document is worked on. -/
  busy : ∀ i, s.caller i = .idle →
    ∃ t, Slot.step (documentJobs readers writers calls panics) s (.enter i) = some t ∧
      (t.caller i = .ended .busy ↔ ∃ j, s.Occupied j)
  /-- An answer is that of the call on its own. -/
  answer : ∀ i answer, s.caller i = .ended answer →
    boundedAnswer answer = (calls i).reply readers writers (workerError answer)
  /-- A document that was turned away is never worked on. -/
  refused : ∀ i answer, s.caller i = .ended answer → answer = .busy ∨ answer = .notStarted →
    ∀ events t, Runs (Slot.step (documentJobs readers writers calls panics)) (Admits calls) s
      events t → t.caller i = .ended answer ∧ t.job i = .absent
  /-- The document at work is the only one that the worker waits for, whether its thread is there,
  can still be started or cannot. -/
  frees : ∀ started, ∃ events t,
    (∀ e ∈ events, s.Occupied e.call ∧ ∀ i b, e = .spawn i b → b = started) ∧
    Runs (Slot.step (documentJobs readers writers calls panics)) Free s events t ∧ t.taken = false

/-- **The document worker.**  However format and parse calls overlap, run out of time or panic: one
document is worked on at a time, a call is busy exactly while another one's document is, no answer
is mixed up, and the worker is free again once the document at work is done. -/
theorem document_work_bounded (events : List (Slot.Event I))
    (s : Slot.State I (Except DocumentErrorCode DocumentReply))
    (run : Runs (Slot.step (documentJobs readers writers calls panics)) (Admits calls) Slot.start
      events s) : DocumentsBounded readers writers calls panics s := by
  have hinv := Slot.invariant_of_run run
  have hsize : ∀ i, s.caller i ≠ .idle → validateInputSize (calls i).content = .ok () :=
    fun _ hbegun =>
      Slot.begun_of_run (P := fun i => validateInputSize (calls i).content = .ok ()) run hbegun
  refine ⟨hinv.exclusive, fun i hidle => Slot.enter_busy_iff hinv hidle, fun i answer hended => ?_,
    fun i answer hended hrefused later t hlater => ?_, Slot.frees hinv⟩
  · have hbegun : s.caller i ≠ .idle := fun hidle => by cases hidle.symm.trans hended
    cases answer with
    | answered reply =>
      have hjob := Slot.answer_of_job hinv hended
      rw [documentJobs] at hjob
      split at hjob
      · cases hjob
      · exact (Option.some.inj hjob).symm
    | busy | notStarted | lost | timedOut =>
      exact (DocumentCall.reply_failed (hsize i hbegun) _).symm
  · have hanswer := Slot.ended_of_run hended hlater
    have hlast : Slot.Invariant (documentJobs readers writers calls panics) t :=
      hlater.invariant _ hinv fun _ _ _ h _ hstep => h.step hstep
    exact ⟨hanswer, Slot.no_job hlast hanswer hrefused⟩

end Worker

/-- Readers and writers that accept nothing, and two calls for the same text. -/
def blindReaders : DocumentReaders := ⟨fun _ => none, fun _ => none, fun _ => none⟩
def blindWriters : DocumentWriters := ⟨fun _ => none, fun _ => none⟩
def twoCalls (_ : Bool) : DocumentCall := .format "a" .json

/-- One call is at work, the other one is turned away, and the first one runs out of time. -/
def lateEvents : List (Slot.Event Bool) :=
  [.enter true, .spawn true true, .enter false, .timeout true, .work true]

theorem document_work_bounded_late :
    ∃ s, Runs (Slot.step (documentJobs blindReaders blindWriters twoCalls fun _ => false))
        (Admits twoCalls) Slot.start lateEvents s ∧
      DocumentsBounded blindReaders blindWriters twoCalls (fun _ => false) s := by
  have hrun : (evaluate (Slot.step (documentJobs blindReaders blindWriters twoCalls
      fun _ => false)) (fun _ _ => true) Slot.start lateEvents).isSome := by decide
  obtain ⟨s, hs⟩ := Option.isSome_iff_exists.mp hrun
  have hsize : validateInputSize "a" = .ok () := by decide
  have hadmits : ∀ s e, Admits twoCalls s e := fun _ _ _ _ => hsize
  have run := (Runs.of_free hs).mono fun s e _ => hadmits s e
  exact ⟨s, run, document_work_bounded _ _ _ _ lateEvents s run⟩

/-! ## What formatting keeps -/

mutual

/-- The floats of a document. -/
def documentFloats : Json → List UInt64
  | .num (.float bits) => [bits]
  | .arr vs => itemFloats vs
  | .obj members => memberFloats members
  | .null | .bool _ | .num (.posInt _) | .num (.negInt _) | .str _ => []

def itemFloats : List Json → List UInt64
  | [] => []
  | v :: vs => documentFloats v ++ itemFloats vs

def memberFloats : List (String × Json) → List UInt64
  | [] => []
  | (_, v) :: members => documentFloats v ++ memberFloats members

end

/-- A float that is read back as it is written.  The reader does not round correctly, so it does
not have all of them back. -/
def DocumentWriters.KeepsFloat (readers : DocumentReaders) (writers : DocumentWriters)
    (bits : UInt64) : Prop :=
  ∀ text, writers.json (.num (.float bits)) = some text →
    readers.json text = some (.num (.float bits))

/-- What is relied on of the reader and the writer of JSON text: a document that was read is read
back as it is written if each of its floats is, white space around a document does not count, and
an object is the only value in braces. -/
structure DocumentWriters.Faithful (readers : DocumentReaders) (writers : DocumentWriters) :
    Prop where
  readsBack : ∀ content v text, readers.json content = some v →
    (∀ bits ∈ documentFloats v, writers.KeepsFloat readers bits) → writers.json v = some text →
    readers.json text = some v
  trims : ∀ text v, readers.json text = some v → readers.json (stripBody text) = some v
  braces : ∀ text v, readers.json text = some v →
    (Text.startsWith (stripBody text) "\x7b" = true ↔ v.asObj?.isSome = true)

/-- The nodes of a JSON document, if it has any and they are all supported. -/
def jsonNodes (document : Json) : Except DocumentErrorCode ParseResult := do
  let (candidates, context) ← okOr (jsonCandidates document) .parseFailed
  let candidates ← okOr candidates.asArr? .parseFailed
  let (nodes, skipped) := parseJsonCandidates candidates context
  reject nodes.isEmpty .parseFailed
  reject (!skipped.isEmpty) .unsupportedNodes
  .ok { format := .json, nodes, skipped }

/-- `parse_exact_document` of a JSON document. -/
def exactJson (document : Json) : Except DocumentErrorCode ParseResult := do
  reject (isProviderOnlyClash document) .unsupportedClashProviders
  jsonNodes document

section Formatting

variable {readers : DocumentReaders} {writers : DocumentWriters} {text body : String}
  {document : Json} {result : ParseResult}

theorem parseClashYaml_format (h : parseClashYaml readers body = .ok result) :
    result.format = .clashYaml := by
  obtain ⟨document, -, h⟩ := ok_bind.mp h
  obtain ⟨candidates, -, h⟩ := ok_bind.mp h
  cases h
  rfl

/-- A text that does not begin with a brace is not read as JSON. -/
theorem parseBody_format (hbrace : Text.startsWith body "\x7b" = false)
    (h : parseBody readers body = some (.ok result)) : result.format ≠ .json := by
  rw [parseBody] at h
  split at h
  · cases h
  · rw [hbrace, if_neg Bool.false_ne_true] at h
    split at h
    · next found hyaml =>
      cases h
      split at hyaml
      · rw [parseClashYaml_format (toOption_eq_some.mp hyaml)]
        exact SubscriptionFormat.noConfusion
      · cases hyaml
    · obtain ⟨found, hlinks, heq⟩ := Option.map_eq_some_iff.mp h
      cases heq
      rw [parseUriList] at hlinks
      dsimp only at hlinks
      split at hlinks
      · cases hlinks
      · cases hlinks
        exact SubscriptionFormat.noConfusion

theorem parseSubscription_format (hbrace : Text.startsWith (stripBody text) "\x7b" = false)
    (h : parseSubscription readers text = .ok result) : result.format ≠ .json := by
  rw [parseSubscription, maxBase64Depth, parseWithDepth, stripBody_trim] at h
  split at h
  · next found hbody => exact parseBody_format hbrace (hbody.trans (congrArg some h))
  · obtain ⟨decoded, -, h⟩ := ok_bind.mp h
    obtain ⟨inner, -, h⟩ := ok_bind.mp h
    cases h
    exact SubscriptionFormat.noConfusion

/-- What a JSON document is parsed to. -/
theorem parseSubscription_json (hbrace : Text.startsWith (stripBody text) "\x7b" = true) :
    parseSubscription readers text = match parseJson readers (stripBody text) with
      | .ok result => .ok result
      | .error _ => parseClashYaml readers (stripBody text) := by
  have hne : stripBody text ≠ "" := by
    intro hempty
    rw [hempty] at hbrace
    exact absurd hbrace (by decide)
  rw [parseSubscription, maxBase64Depth, parseWithDepth, stripBody_trim, parseBody, if_neg hne,
    if_pos hbrace]
  cases parseJson readers (stripBody text) <;> rfl

/-- The checks of `parse_exact_document` on what a JSON document was parsed to. -/
def keptJson (parsed : Except ParseError ParseResult) : Except DocumentErrorCode ParseResult := do
  let parsed ← parsed.mapError fun _ => .parseFailed
  reject (parsed.format ≠ .json || parsed.nodes.isEmpty) .parseFailed
  reject (!parsed.skipped.isEmpty) .unsupportedNodes
  .ok parsed

theorem keptJson_other {parsed : Except ParseError ParseResult}
    (h : ∀ result, parsed = .ok result → result.format ≠ .json) :
    keptJson parsed = .error .parseFailed := by
  cases parsed with
  | error e => rfl
  | ok result =>
    have hother : (decide (result.format ≠ .json) || result.nodes.isEmpty) = true := by
      simp [h result rfl]
    have hmapped : (Except.ok result : Except ParseError ParseResult).mapError
        (fun _ => DocumentErrorCode.parseFailed) = .ok result := rfl
    rw [keptJson, hmapped]
    exact error_bind.mpr (.inr ⟨result, rfl, error_bind.mpr (.inl (reject_eq_error.mpr ⟨hother, rfl⟩))⟩)

/-- `parse_json` of a document that was read. -/
def parsedJson (document : Json) : Except ParseError ParseResult := do
  let (candidates, context) ← okOr (jsonCandidates document) .unsupportedInput
  let candidates ← okOr candidates.asArr? .unsupportedInput
  let (nodes, skipped) := parseJsonCandidates candidates context
  .ok { format := .json, nodes, skipped }

theorem parseJson_of (h : readers.json body = some document) :
    parseJson readers body = parsedJson document := by
  rw [parseJson, h]
  rfl

/-- What a JSON document is parsed to, read as JSON alone. -/
theorem keptJson_parseSubscription (hfaithful : writers.Faithful readers)
    (hread : readers.json text = some document) :
    keptJson (parseSubscription readers text) = jsonNodes document := by
  have hstripped := hfaithful.trims text document hread
  have hbraces := hfaithful.braces text document hread
  -- a fallback to YAML is refused
  have hyaml : keptJson (parseClashYaml readers (stripBody text)) = .error .parseFailed := by
    refine keptJson_other fun result h => ?_
    rw [parseClashYaml_format h]
    exact SubscriptionFormat.noConfusion
  by_cases hbrace : Text.startsWith (stripBody text) "\x7b" = true
  · rw [parseSubscription_json hbrace, parseJson_of hstripped]
    cases hcandidates : jsonCandidates document with
    | none =>
      have hparsed : parsedJson document = .error .unsupportedInput := by
        rw [parsedJson, hcandidates]
        rfl
      rw [hparsed, jsonNodes, hcandidates]
      exact hyaml
    | some found =>
      obtain ⟨candidates, context⟩ := found
      have hparsed : parsedJson document = (okOr candidates.asArr? .unsupportedInput >>= fun list =>
          .ok ⟨.json, (parseJsonCandidates list context).1, (parseJsonCandidates list context).2⟩) := by
        rw [parsedJson, hcandidates]
        rfl
      have hnodes : jsonNodes document = (okOr candidates.asArr? .parseFailed >>= fun list =>
          keptJson (.ok ⟨.json, (parseJsonCandidates list context).1,
            (parseJsonCandidates list context).2⟩)) := by
        rw [jsonNodes, hcandidates]
        rfl
      rw [hparsed, hnodes]
      cases candidates.asArr? with
      | none => exact hyaml
      | some list => rfl
  · have hvalue : document.asObj? = none := by
      simpa using mt hbraces.mpr hbrace
    have hnone : jsonCandidates document = none := by
      cases document with
      | obj ms => cases hvalue
      | null | bool | num | str | arr => rfl
    rw [jsonNodes, hnone]
    exact keptJson_other fun result h => parseSubscription_format (by simpa using hbrace) h

/-- **Spec.**  A JSON document is accepted for what it says, not for how it is written. -/
theorem parseExactDocument_json (hfaithful : writers.Faithful readers)
    (hsize : validateInputSize text = .ok ()) (hread : readers.json text = some document) :
    parseExactDocument readers none text .json = exactJson document := by
  have hkept := keptJson_parseSubscription hfaithful hread
  have hexact : parseExactDocument readers none text .json =
      (reject (isProviderOnlyClash document) .unsupportedClashProviders >>= fun _ =>
        keptJson (parseSubscription readers text)) := by
    rw [parseExactDocument, hsize, documentSyntax, hread]
    rfl
  rw [hexact, hkept]
  rfl

/-- **Formatting keeps the document.**  A formatted JSON document is accepted with the same nodes
or refused for the same reason, and formatting it again changes nothing, if its floats are ones
that the reader has back. -/
theorem format_keeps_document (readers : DocumentReaders) (writers : DocumentWriters)
    (content formatted : String) (hfaithful : writers.Faithful readers)
    (hfloats : ∀ document, readers.json content = some document →
      ∀ bits ∈ documentFloats document, writers.KeepsFloat readers bits)
    (h : formatDocument readers writers none content .json = .ok formatted) :
    parseExactDocument readers none formatted .json = parseExactDocument readers none content .json ∧
      formatDocument readers writers none formatted .json = .ok formatted := by
  obtain ⟨hsize, h⟩ := ok_seq.mp h
  obtain ⟨written, hwritten, h⟩ := ok_bind.mp h
  obtain ⟨hsize', h⟩ := ok_seq.mp h
  cases h
  obtain ⟨document, hread, hwrites⟩ := Option.bind_eq_some_iff.mp (okOr_eq_ok.mp hwritten)
  have hback := hfaithful.readsBack content document formatted hread (hfloats document hread) hwrites
  refine ⟨?_, ?_⟩
  · rw [parseExactDocument_json hfaithful hsize' hback,
      parseExactDocument_json hfaithful hsize hread]
  · have hagain : rewritten readers writers formatted .json = some formatted :=
      Option.bind_eq_some_iff.mpr ⟨document, hback, hwrites⟩
    exact ok_seq.mpr ⟨hsize', ok_bind.mpr ⟨formatted, okOr_eq_ok.mpr hagain,
      ok_seq.mpr ⟨hsize', rfl⟩⟩⟩

end Formatting

/-- A document with a node and a float, as it was typed. -/
def typedBody : String :=
  "\x7b\"ratio\": 0.50, \"proxies\":[\x7b\"type\":\"socks\",\"name\":\"a\",\"server\":\"a.example\",\"port\":1080\x7d]\x7d\n"

/-- The document without the white space around it. -/
def bareBody : String :=
  "\x7b\"ratio\": 0.50, \"proxies\":[\x7b\"type\":\"socks\",\"name\":\"a\",\"server\":\"a.example\",\"port\":1080\x7d]\x7d"

/-- The document as it is written. -/
def prettyBody : String :=
  "\x7b\n  \"proxies\": [\n    \x7b\n      \"name\": \"a\",\n      \"port\": 1080,\n      \"server\": \"a.example\",\n      \"type\": \"socks\"\n    \x7d\n  ],\n  \"ratio\": 0.5\n\x7d"

/-- The bits of 0.5. -/
def halfBits : UInt64 := 0x3fe0000000000000

/-- What these texts say. -/
def typedTree : Json :=
  .obj [("proxies", .arr [.obj [("name", .str "a"), ("port", .num (.posInt 1080)),
      ("server", .str "a.example"), ("type", .str "socks")]]),
    ("ratio", .num (.float halfBits))]

/-- The texts that say this. -/
def typedTexts : List String := [typedBody, bareBody, prettyBody]

/-- A reader of these texts, and of the float alone. -/
def typedReaders : DocumentReaders where
  json text :=
    if text ∈ typedTexts then some typedTree
    else if text = "0.5" then some (.num (.float halfBits))
    else none
  yaml _ := none
  yamlValue _ := none

def typedWriters : DocumentWriters where
  json
    | .obj _ => some prettyBody
    | .num _ => some "0.5"
    | _ => none
  yaml _ := none

theorem typedReaders_tree {text : String} (h : text ∈ typedTexts) :
    typedReaders.json text = some typedTree := if_pos h

theorem typedReaders_half : typedReaders.json "0.5" = some (.num (.float halfBits)) := by
  have hother : "0.5" ∉ typedTexts := by decide +kernel
  rw [typedReaders]
  dsimp only
  rw [if_neg hother, if_pos rfl]

/-- A text that is read says one of the two values. -/
theorem typedReaders_json {text : String} {v : Json} (h : typedReaders.json text = some v) :
    (text ∈ typedTexts ∧ v = typedTree) ∨ (text = "0.5" ∧ v = .num (.float halfBits)) := by
  rw [typedReaders] at h
  dsimp only at h
  split at h
  · next htext => exact .inl ⟨htext, (Option.some.inj h).symm⟩
  · split at h
    · next htext => exact .inr ⟨htext, (Option.some.inj h).symm⟩
    · cases h

/-- What is written of the float is read back. -/
theorem typedWriters_keepsFloat : typedWriters.KeepsFloat typedReaders halfBits := by
  intro text hwrites
  obtain rfl : "0.5" = text := Option.some.inj hwrites
  exact typedReaders_half

/-- Of the texts only the typed one has white space around it, and each begins with a brace. -/
theorem typedTexts_stripped {text : String} (h : text ∈ typedTexts) :
    stripBody text ∈ typedTexts ∧ Text.startsWith (stripBody text) "\x7b" = true := by
  have hstripped : typedTexts.map (fun text => (stripBody text).toList) =
      [bareBody, bareBody, prettyBody].map String.toList := by
    simp only [toList_stripBody]
    decide +kernel
  have hbraces : typedTexts.all (Text.startsWith · "\x7b") := by decide +kernel
  have hmem : (stripBody text).toList ∈ [bareBody, bareBody, prettyBody].map String.toList := by
    rw [← hstripped]
    exact List.mem_map.mpr ⟨text, h, rfl⟩
  obtain ⟨stripped, hmem, heq⟩ := List.mem_map.mp hmem
  obtain rfl : stripped = stripBody text := String.toList_inj.mp heq
  have hknown : stripBody text ∈ typedTexts :=
    (List.subset_def.mp (by simp [typedTexts])) hmem
  exact ⟨hknown, List.all_eq_true.mp hbraces _ hknown⟩

theorem typedWriters_faithful : typedWriters.Faithful typedReaders := by
  have hhalf : stripBody "0.5" = "0.5" := by decide +kernel
  constructor
  · intro content v text hread _ hwrites
    cases typedReaders_json hread with
    | inl htree =>
      obtain ⟨-, rfl⟩ := htree
      obtain rfl : prettyBody = text := Option.some.inj hwrites
      exact typedReaders_tree (by simp [typedTexts])
    | inr hfloat =>
      obtain ⟨-, rfl⟩ := hfloat
      exact typedWriters_keepsFloat text hwrites
  · intro text v hread
    cases typedReaders_json hread with
    | inl htree =>
      obtain ⟨htext, rfl⟩ := htree
      exact typedReaders_tree (typedTexts_stripped htext).1
    | inr hfloat =>
      obtain ⟨rfl, rfl⟩ := hfloat
      rw [hhalf]
      exact typedReaders_half
  · intro text v hread
    cases typedReaders_json hread with
    | inl htree =>
      obtain ⟨htext, rfl⟩ := htree
      exact iff_of_true (typedTexts_stripped htext).2 rfl
    | inr hfloat =>
      obtain ⟨rfl, rfl⟩ := hfloat
      rw [hhalf]
      exact iff_of_false (by decide) Bool.false_ne_true

/-- The typed document is formatted, and its node is read from both texts. -/
theorem format_keeps_document_typed :
    (parseExactDocument typedReaders none typedBody .json).map (·.nodes.map (·.server)) =
        .ok ["a.example"] ∧
      parseExactDocument typedReaders none prettyBody .json =
        parseExactDocument typedReaders none typedBody .json ∧
      formatDocument typedReaders typedWriters none prettyBody .json = .ok prettyBody := by
  have hformatted : formatDocument typedReaders typedWriters none typedBody .json =
      .ok prettyBody := by decide +kernel
  have hread : typedReaders.json typedBody = some typedTree :=
    typedReaders_tree List.mem_cons_self
  have hfloats : ∀ document, typedReaders.json typedBody = some document →
      ∀ bits ∈ documentFloats document, typedWriters.KeepsFloat typedReaders bits := by
    intro document hdocument bits hbits
    rw [hread] at hdocument
    obtain rfl := Option.some.inj hdocument
    have hhalf : bits = halfBits := by
      simpa [typedTree, documentFloats, itemFloats, memberFloats] using hbits
    rw [hhalf]
    exact typedWriters_keepsFloat
  exact ⟨by decide +kernel, format_keeps_document typedReaders typedWriters _ _
    typedWriters_faithful hfloats hformatted⟩

end Veyra
