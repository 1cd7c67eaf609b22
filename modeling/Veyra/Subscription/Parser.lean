import Veyra.Subscription.Uri

/-!
# Veyra.Subscription.Parser

`parse_subscription`: JSON documents, Clash YAML, lists of share links, and up
to two base64 layers around any of them.
-/

namespace Veyra

open Check

def maxBase64Depth : Nat := 2

inductive JsonCandidateContext
  | proxies
  | outbounds
deriving DecidableEq, Repr

/-- One candidate of `parse_json_candidates`; `none` for an outbound that is no node. -/
def parseCandidate (context : JsonCandidateContext) (candidate : Json) :
    Option (Parsed ProxyNodeDraft) :=
  if context = .outbounds && ((candidate.get? "type").bind Json.asStr?).any
      (["direct", "block", "dns", "selector", "urltest"].contains ·) then none
  else some <|
    match candidate.asObj? with
    | none => draftFromEntry candidate
    | some members => do
      let members ← okOr (normalizeAliases members) .invalidNode
      draftFromEntry (.obj members)

/-- Sort results into nodes and skipped nodes, each in order. -/
def collectParsed : List (Parsed ProxyNodeDraft) → List ProxyNodeDraft × List SkippedNode
  | [] => ([], [])
  | .ok draft :: rest => ((draft :: (collectParsed rest).1), (collectParsed rest).2)
  | .error reason :: rest => ((collectParsed rest).1, reason :: (collectParsed rest).2)

/-- `parse_json_candidates`. -/
def parseJsonCandidates (candidates : List Json) (context : JsonCandidateContext) :
    List ProxyNodeDraft × List SkippedNode :=
  collectParsed (candidates.filterMap (parseCandidate context))

/-- The candidate list of a JSON document and what it is a list of. -/
def jsonCandidates (document : Json) : Option (Json × JsonCandidateContext) :=
  match document.get? "proxies" with
  | some candidates => some (candidates, .proxies)
  | none => (document.get? "outbounds").map (·, .outbounds)

def parseJson (readers : DocumentReaders) (body : String) : Except ParseError ParseResult := do
  let document ← okOr (readers.json body) .unsupportedInput
  let (candidates, context) ← okOr (jsonCandidates document) .unsupportedInput
  let candidates ← okOr candidates.asArr? .unsupportedInput
  let (nodes, skipped) := parseJsonCandidates candidates context
  .ok { format := .json, nodes, skipped }

def looksLikeYaml (body : String) : Bool :=
  (Text.lines body).any fun line =>
    ["proxies:", "\"proxies\":", "'proxies':"].any (Text.startsWith (Text.trimStart line))

def parseClashYaml (readers : DocumentReaders) (body : String) :
    Except ParseError ParseResult := do
  let document ← okOr (readers.yaml body) .unsupportedInput
  let candidates ← okOr ((document.get? "proxies").bind Json.asArr?) .unsupportedInput
  let (nodes, skipped) := parseJsonCandidates candidates .proxies
  .ok { format := .clashYaml, nodes, skipped }

/-- `parse_uri_list`: `none` when no line looks like a link. -/
def parseUriList (readers : DocumentReaders) (body : String) : Option ParseResult :=
  let lines := ((Text.lines body).map Text.trim).filter fun line =>
    line != "" && !Text.startsWith line "#"
  if lines.isEmpty || !lines.any (Text.contains · "://") then none
  else
    let (nodes, skipped) := collectParsed (lines.map (parseUri readers))
    some { format := .uriList, nodes, skipped }

/-- The body without surrounding white space and byte order marks. -/
def stripBody (body : String) : String :=
  Text.trimStart (Text.trimStartMatches '\ufeff' (Text.trim body))

/-- The formats of `parse_with_depth` other than base64; `none` when the body has none
of them. -/
def parseBody (readers : DocumentReaders) (body : String) :
    Option (Except ParseError ParseResult) :=
  if body = "" then some (.error .emptyInput)
  else if Text.startsWith body "\x7b" then
    match parseJson readers body with
    | .ok result => some (.ok result)
    | .error _ => some (parseClashYaml readers body)
  else
    match if looksLikeYaml body then (parseClashYaml readers body).toOption else none with
    | some result => some (.ok result)
    | none => (parseUriList readers body).map .ok

/-- `parse_with_depth`; the counter is the number of base64 layers that may still be
taken off. -/
def parseWithDepth (readers : DocumentReaders) : Nat → String → Except ParseError ParseResult
  | 0, body => (parseBody readers (stripBody body)).getD (.error .unsupportedInput)
  | layers + 1, body =>
    match parseBody readers (stripBody body) with
    | some result => result
    | none => do
      let decoded ← decodeBase64 (stripBody body)
      let result ← parseWithDepth readers layers decoded
      .ok { result with format := .base64 }

def parseSubscription (readers : DocumentReaders) (body : String) :
    Except ParseError ParseResult :=
  parseWithDepth readers maxBase64Depth (Text.trim body)

end Veyra
