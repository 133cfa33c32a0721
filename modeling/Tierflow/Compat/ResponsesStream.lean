import Tierflow.Foundation.Gather
import Tierflow.Compat.Responses

/-! A stream of events of the Responses API as the chunks of a chat completion. Text and calls are passed on as they
arrive; which call an event belongs to is found out from item ids and call ids. -/
namespace Tierflow
namespace Compat

/-! ## Events -/

inductive StreamEventType
  | created
  | reasoningSummaryTextDelta
  | reasoningSummaryTextDone
  | outputTextDelta
  | outputItemAdded
  | outputItemDone
  | functionCallArgumentsDelta
  | functionCallArgumentsDone
  | completed
  | error
  | failed
  | other
  deriving DecidableEq, Repr

structure OpenAIError where
  type : String
  message : String
  deriving DecidableEq, Repr

/-- Any event; `error` is the error of its response. -/
structure ResponsesStreamResponse where
  type : StreamEventType
  response : Option OpenAIResponsesResponse
  error : Option OpenAIError
  delta : String
  item : Option ResponsesOutput
  outputIndex : Option ℕ
  itemId : String
  deriving DecidableEq, Repr

/-! ## Chunks -/

structure ToolCallDelta where
  index : ℕ
  id : String
  type : String
  name : String
  arguments : String
  deriving DecidableEq, Repr

structure ChatDelta where
  role : String
  content : Option String
  reasoningContent : Option String
  toolCalls : List ToolCallDelta
  deriving DecidableEq, Repr

structure ChatChoice where
  delta : ChatDelta
  finishReason : Option String
  deriving DecidableEq, Repr

structure ChatChunk where
  created : ℤ
  model : String
  choices : List ChatChoice
  usage : Option Usage
  deriving DecidableEq, Repr

def startChoice : ChatChoice := ⟨⟨"assistant",some "",none,[]⟩,none⟩

def contentChoice (delta : String) : ChatChoice := ⟨⟨"",some delta,none,[]⟩,none⟩

def reasoningChoice (delta : String) : ChatChoice := ⟨⟨"",none,some delta,[]⟩,none⟩

def toolChoice (tool : ToolCallDelta) : ChatChoice := ⟨⟨"",none,none,[tool]⟩,none⟩

def stopChoice (finishReason : String) : ChatChoice := ⟨⟨"",none,none,[]⟩,some finishReason⟩

/-! ## The handler -/

/-- A call's number among the chunks is its place in `toolCallIds`. -/
structure ToChatState where
  model : String
  createdAt : ℤ
  usage : Usage
  outputText : String
  usageText : String
  sentStart : Bool
  sentStop : Bool
  sawToolCall : Bool
  streamErr : Option OpenAIError
  toolCallIds : List String
  toolCallNameById : String → String
  toolCallArgsById : String → String
  toolCallNameSent : String → Bool
  canonicalIdByItemId : String → String
  hasSentReasoningSummary : Bool
  needsReasoningSummarySeparator : Bool
  sent : List ChatChunk

namespace ToChatState

def init (model : String) (createdAt : ℤ) : ToChatState :=
  ⟨model,createdAt,.zero,"","",false,false,false,none,[],fun _ => "",fun _ => "",fun _ => false,fun _ => "",false,false,[]⟩

def send (s : ToChatState) (choice : ChatChoice) : ToChatState :=
  { s with sent := s.sent++[⟨s.createdAt,s.model,[choice],none⟩] }

def sendStartIfNeeded (s : ToChatState) : ToChatState :=
  if s.sentStart then s else { s.send startChoice with sentStart := true }

/-- Between two summaries there is an empty line. -/
def separated (s : ToChatState) (delta : String) : String :=
  if s.needsReasoningSummarySeparator then
    if Text.hasPrefix delta "\n\n" then delta
    else if Text.hasPrefix delta "\n" then "\n"++delta
    else "\n\n"++delta
  else delta

def sendReasoningSummaryDelta (s : ToChatState) (delta : String) : ToChatState :=
  if delta = "" then s
  else
    let text := s.separated delta
    let s := { s with needsReasoningSummarySeparator := false }.sendStartIfNeeded
    { s.send (reasoningChoice text) with usageText := s.usageText++text, hasSentReasoningSummary := true }

/-- Remember a name for a call, unless it is empty. -/
def noteName (s : ToChatState) (callId name : String) : ToChatState :=
  if name≠"" then { s with toolCallNameById := Function.update s.toolCallNameById callId name } else s

def indexCall (s : ToChatState) (callId : String) : ToChatState :=
  if callId∈s.toolCallIds then s else { s with toolCallIds := s.toolCallIds++[callId] }

/-- What is sent for a call; its name is in it the first time that it is known. -/
def toolPiece (s : ToChatState) (callId argsDelta : String) : ToolCallDelta :=
  let name := s.toolCallNameById callId
  ⟨s.toolCallIds.idxOf callId,callId,"function",
    if name≠"" ∧ s.toolCallNameSent callId = false then name else "",argsDelta⟩

/-- Nothing is sent for a call behind a text. -/
def sendToolCallDelta (s : ToChatState) (callId name argsDelta : String) : ToChatState :=
  if callId = "" then s
  else if s.outputText≠"" then s
  else
    let s := (s.sendStartIfNeeded.indexCall callId).noteName callId name
    let tool := s.toolPiece callId argsDelta
    { s.send (toolChoice tool) with
      toolCallNameSent := if tool.name≠"" then Function.update s.toolCallNameSent callId true else s.toolCallNameSent
      sawToolCall := true
      usageText := s.usageText++tool.name++argsDelta }

def noteResponse (s : ToChatState) (response : OpenAIResponsesResponse) : ToChatState :=
  { s with
    model := if response.model≠"" then response.model else s.model
    createdAt := if response.createdAt≠0 then response.createdAt else s.createdAt }

def outputTextDelta (s : ToChatState) (delta : String) : ToChatState :=
  let s := s.sendStartIfNeeded
  if delta = "" then s
  else { s.send (contentChoice delta) with outputText := s.outputText++delta, usageText := s.usageText++delta }

end ToChatState

/-- The id that a call goes by: its call id, or else the id of its item. -/
def ResponsesOutput.effectiveId (o : ResponsesOutput) : String :=
  if Text.trimSpace o.callId = "" then Text.trimSpace o.id else Text.trimSpace o.callId

/-- What is new in the arguments, if they continue the ones before. -/
def argsDelta (newArgs prevArgs : String) : String :=
  if newArgs = "" then "" else (Text.cutPrefix newArgs prevArgs).getD newArgs

namespace ToChatState

def noteItem (s : ToChatState) (item : ResponsesOutput) : ToChatState :=
  let itemId := Text.trimSpace item.id
  if itemId≠"" ∧ item.effectiveId≠"" then
    { s with canonicalIdByItemId := Function.update s.canonicalIdByItemId itemId item.effectiveId }
  else s

def noteArgs (s : ToChatState) (callId newArgs : String) : ToChatState :=
  if newArgs≠"" then { s with toolCallArgsById := Function.update s.toolCallArgsById callId newArgs } else s

def outputItem (s : ToChatState) (item : ResponsesOutput) : ToChatState :=
  if item.type≠"function_call" then s
  else
    let callId := item.effectiveId
    let name := Text.trimSpace item.name
    let newArgs := item.argumentsString
    (((s.noteItem item).noteName callId name).noteArgs callId newArgs).sendToolCallDelta callId name
      (argsDelta newArgs (s.toolCallArgsById callId))

def argumentsDelta (s : ToChatState) (eventItemId delta : String) : ToChatState :=
  let itemId := Text.trimSpace eventItemId
  let callId := if s.canonicalIdByItemId itemId = "" then itemId else s.canonicalIdByItemId itemId
  if callId = "" then s
  else
    { s with
      toolCallArgsById :=
        Function.update s.toolCallArgsById callId (s.toolCallArgsById callId++delta) }.sendToolCallDelta callId "" delta

def finishReason (s : ToChatState) : String :=
  if s.sawToolCall ∧ s.outputText = "" then "tool_calls" else "stop"

def sendStopIfNeeded (s : ToChatState) : ToChatState :=
  if s.sentStop then s else { s.send (stopChoice s.finishReason) with sentStop := true }

/-- Counts that are not zero replace the ones before. -/
def noteUsage (s : ToChatState) (u : Usage) : ToChatState :=
  let promptTokens := if u.inputTokens≠0 then u.inputTokens else s.usage.promptTokens
  let completionTokens := if u.outputTokens≠0 then u.outputTokens else s.usage.completionTokens
  { s with
    usage :=
      { s.usage with
        promptTokens := promptTokens
        inputTokens := if u.inputTokens≠0 then u.inputTokens else s.usage.inputTokens
        completionTokens := completionTokens
        outputTokens := if u.outputTokens≠0 then u.outputTokens else s.usage.outputTokens
        totalTokens := if u.totalTokens≠0 then u.totalTokens else promptTokens+completionTokens
        promptTokensDetails :=
          match u.inputTokensDetails with
          | none => s.usage.promptTokensDetails
          | some d =>
            { s.usage.promptTokensDetails with
              cachedTokens := d.cachedTokens
              imageTokens := d.imageTokens
              audioTokens := d.audioTokens }
        completionTokenDetails :=
          if u.completionTokenDetails.reasoningTokens≠0 then
            { s.usage.completionTokenDetails with reasoningTokens := u.completionTokenDetails.reasoningTokens }
          else s.usage.completionTokenDetails } }

def completed (s : ToChatState) (response : Option OpenAIResponsesResponse) : ToChatState :=
  (match response with
  | none => s
  | some r => ((r.usage.map (s.noteResponse r).noteUsage).getD (s.noteResponse r))).sendStartIfNeeded.sendStopIfNeeded

def fail (s : ToChatState) (error : Option OpenAIError) (name : String) : ToChatState :=
  { s with
    streamErr := some ((error.filter (fun e : OpenAIError => e.type≠"")).getD
      ⟨"bad_response","responses stream error: "++name⟩) }

/-- One event; behind an error there is nothing. -/
def step (s : ToChatState) (e : ResponsesStreamResponse) : ToChatState :=
  if s.streamErr≠none then s
  else
    match e.type with
    | .created => (e.response.map s.noteResponse).getD s
    | .reasoningSummaryTextDelta => s.sendReasoningSummaryDelta e.delta
    | .reasoningSummaryTextDone =>
      if s.hasSentReasoningSummary then { s with needsReasoningSummarySeparator := true } else s
    | .outputTextDelta => s.outputTextDelta e.delta
    | .outputItemAdded | .outputItemDone => (e.item.map s.outputItem).getD s
    | .functionCallArgumentsDelta => s.argumentsDelta e.itemId e.delta
    | .functionCallArgumentsDone => s
    | .completed => s.completed e.response
    | .error => s.fail e.error "response.error"
    | .failed => s.fail e.error "response.failed"
    | .other => s

end ToChatState

/-- The chunks for these events, and the usage to bill; a stream without a usage is counted by `estimate`. -/
def oaiResponsesToChatStreamHandler (estimate : String → Usage) (model : String) (createdAt : ℤ)
    (shouldIncludeUsage : Bool) (events : List ResponsesStreamResponse) : Except OpenAIError (List ChatChunk × Usage) :=
  let s := events.foldl ToChatState.step (.init model createdAt)
  match s.streamErr with
  | some e => .error e
  | none =>
    let usage := if s.usage.totalTokens = 0 then estimate s.usageText else s.usage
    let s := s.sendStartIfNeeded.sendStopIfNeeded
    .ok (s.sent++(if shouldIncludeUsage then [⟨s.createdAt,s.model,[],some usage⟩] else []),usage)

/-! ## The message in the chunks -/

def choices (chunks : List ChatChunk) : List ChatChoice := chunks.flatMap ChatChunk.choices

def ChatChoice.texts (c : ChatChoice) : List String := c.delta.content.toList

/-- The pieces of a call in one: its id is in the first of them. -/
def joinPieces (pieces : List ToolCallDelta) : ToolCall :=
  ⟨(pieces.map ToolCallDelta.id).headD "",(pieces.map ToolCallDelta.type).headD "",
    String.join (pieces.map ToolCallDelta.name),String.join (pieces.map ToolCallDelta.arguments)⟩

/-- The calls in the chunks, put together by their index. -/
def assembledCalls (cs : List ChatChoice) : List ToolCall :=
  (Gather.gather ToolCallDelta.index (cs.flatMap (fun c => c.delta.toolCalls))).map (fun g => joinPieces g.2)

/-- The choice that a client puts together from the chunks. -/
def assembledChoice (chunks : List ChatChunk) : Choice :=
  let cs := choices chunks
  ⟨0,⟨String.join (cs.map (fun c => c.delta.role)),.string (String.join (cs.flatMap ChatChoice.texts)),assembledCalls cs⟩,
    ((cs.filterMap ChatChoice.finishReason).getLast?).getD ""⟩

end Compat
end Tierflow
