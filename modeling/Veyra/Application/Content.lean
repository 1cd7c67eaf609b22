import Veyra.Subscription.Parser
import Veyra.Subscription.Normalize

/-!
# Veyra.Application.Content

The content boundary of subscription management: what an imported or fetched
body must be (`parseContent`), what an edited document must be
(`parseExactDocument`), and which document a body is kept as.
-/

namespace Veyra

open Check

/-- The errors of `SubscriptionManager`. -/
inductive SubscriptionOperationError
  | invalidInput
  | busy
  | fetchFailed
  | parseFailed
  | normalizationFailed
  | validationFailed
  | saveFailed
  | stateUnavailable
  | notFound
  | cacheUnavailable
  | identityFailed
  | invalidOptions
  | unsupportedClashProviders
  | proxyUnavailable
  | systemProxyUnavailable
  | referenceConflict
  | notShareable
deriving DecidableEq, Repr

/-- The errors of the document editor's parser and formatter. -/
inductive DocumentErrorCode
  | invalidInput
  | contentTooLarge
  | formatFailed
  | parseFailed
  | unsupportedNodes
  | unsupportedClashProviders
  | busy
  | operationTimedOut
deriving DecidableEq, Repr

def maxContentBytes : Nat := 4 * 1024 * 1024

/-- The parameters of the content functions: the document readers and the JSON text. -/
structure ContentEnv where
  readers : DocumentReaders
  text : JsonText

/-! ## Clash documents without nodes -/

/-- The value under a key is an object with members. -/
def hasMembers (document : Json) (key : String) : Bool :=
  ((document.get? key).bind Json.asObj?).any (!List.isEmpty ·)

/-- The value under a key is an array with elements. -/
def hasElements (document : Json) (key : String) : Bool :=
  ((document.get? key).bind Json.asArr?).any (!List.isEmpty ·)

/-- `is_provider_only_clash`: external providers and no nodes of its own. -/
def isProviderOnlyClash (document : Json) : Bool :=
  hasMembers document "proxy-providers" && !hasElements document "proxies"

/-- `clash_document_error`. -/
def clashDocumentError (readers : DocumentReaders) (content : String) :
    Option SubscriptionOperationError :=
  match (readers.json content).or (readers.yaml content) with
  | some document => if isProviderOnlyClash document then some .unsupportedClashProviders else none
  | none => none

/-! ## Bodies -/

/-- Keep the first draft of each connection: the loop of `deduplicate_parsed_nodes`. -/
def deduplicateDrafts (text : JsonText) (seen : List String) :
    List ProxyNodeDraft → List ProxyNodeDraft
  | [] => []
  | d :: ds =>
    let connection := text.compact (.arr (connectionFields d))
    if seen.contains connection then deduplicateDrafts text seen ds
    else d :: deduplicateDrafts text (connection :: seen) ds

/-- `deduplicate_parsed_nodes`. -/
def deduplicateParsedNodes (text : JsonText) (parsed : ParseResult) : ParseResult :=
  { parsed with nodes := deduplicateDrafts text [] parsed.nodes }

/-- `parse_content`. -/
def parseContent (env : ContentEnv) (content : String) :
    Except SubscriptionOperationError ParseResult := do
  reject (content = "" || Text.len content > maxContentBytes) .invalidInput
  match clashDocumentError env.readers content with
  | some error => .error error
  | none => do
    let parsed ← (parseSubscription env.readers content).mapError fun _ => .parseFailed
    reject parsed.nodes.isEmpty .parseFailed
    .ok (deduplicateParsedNodes env.text parsed)

/-- `document_for_body`: only JSON and YAML bodies can be edited. -/
def documentForBody (content : String) (format : SubscriptionFormat) :
    Option SubscriptionDocument :=
  match format with
  | .json => some { format := .json, content, localOverride := false }
  | .clashYaml => some { format := .yaml, content, localOverride := false }
  | .uriList | .base64 => none

/-! ## Edited documents -/

/-- `validate_input_size`. -/
def validateInputSize (content : String) : Except DocumentErrorCode Unit := do
  reject (content = "") .invalidInput
  reject (Text.len content > maxSubscriptionDocumentBytes) .contentTooLarge

/-- The syntax tree of a document in its declared format. -/
def documentSyntax (readers : DocumentReaders) (content : String) :
    SubscriptionDocumentFormat → Option Json
  | .json => readers.json content
  | .yaml => readers.yamlValue content

/-- The format of a parse result that a declared document format stands for. -/
def SubscriptionDocumentFormat.parsedAs : SubscriptionDocumentFormat → SubscriptionFormat
  | .json => .json
  | .yaml => .clashYaml

/-- `parse_exact_document`; `worker` is the error of the bounded worker when it was busy,
did not start or did not answer in time. -/
def parseExactDocument (readers : DocumentReaders) (worker : Option DocumentErrorCode)
    (content : String) (format : SubscriptionDocumentFormat) :
    Except DocumentErrorCode ParseResult := do
  validateInputSize content
  match worker with
  | some error => .error error
  | none => do
    let syntaxTree ← okOr (documentSyntax readers content format) .formatFailed
    reject (isProviderOnlyClash syntaxTree) .unsupportedClashProviders
    let parsed ← (parseSubscription readers content).mapError fun _ => .parseFailed
    reject (parsed.format ≠ format.parsedAs || parsed.nodes.isEmpty) .parseFailed
    reject (!parsed.skipped.isEmpty) .unsupportedNodes
    .ok parsed

/-! ## Facts -/

/-- The kept drafts are among the parsed ones. -/
theorem mem_of_mem_deduplicateDrafts {text : JsonText} {seen : List String}
    {drafts : List ProxyNodeDraft} {d : ProxyNodeDraft}
    (h : d ∈ deduplicateDrafts text seen drafts) : d ∈ drafts := by
  induction drafts generalizing seen with
  | nil => simp [deduplicateDrafts] at h
  | cons e es ih =>
    rw [deduplicateDrafts] at h
    split at h
    · exact List.mem_cons_of_mem _ (ih h)
    · cases List.mem_cons.mp h with
      | inl heq => rw [heq]; exact List.mem_cons_self ..
      | inr h => exact List.mem_cons_of_mem _ (ih h)

/-- What an accepted body has passed. -/
theorem parseContent_eq_ok {env : ContentEnv} {content : String} {result : ParseResult} :
    parseContent env content = .ok result ↔
      content ≠ "" ∧ Text.len content ≤ maxContentBytes ∧
      clashDocumentError env.readers content = none ∧
      ∃ parsed, parseSubscription env.readers content = .ok parsed ∧ parsed.nodes ≠ [] ∧
        result = deduplicateParsedNodes env.text parsed := by
  rw [parseContent, ok_seq, reject_eq_ok]
  simp only [Bool.or_eq_false_iff, decide_eq_false_iff_not, gt_iff_lt, Nat.not_lt, and_assoc]
  cases hclash : clashDocumentError env.readers content with
  | some error => simp
  | none =>
    constructor
    · rintro ⟨hempty, hlen, h⟩
      obtain ⟨parsed, hparsed, h⟩ := ok_bind.mp h
      obtain ⟨hnodes, h⟩ := ok_seq.mp h
      cases h
      exact ⟨hempty, hlen, rfl, parsed, mapError_eq_ok.mp hparsed, by simpa using hnodes, rfl⟩
    · rintro ⟨hempty, hlen, -, parsed, hparsed, hnodes, rfl⟩
      have hnonempty : reject parsed.nodes.isEmpty SubscriptionOperationError.parseFailed = .ok () := by
        simpa using hnodes
      exact ⟨hempty, hlen, ok_bind.mpr ⟨parsed, mapError_eq_ok.mpr hparsed,
        ok_seq.mpr ⟨hnonempty, rfl⟩⟩⟩

end Veyra
