import Tierflow.Foundation.Gather
import Tierflow.Foundation.JsonTree
import Tierflow.Foundation.Lines
import Tierflow.Foundation.Text

/-! The reply to a captured request. A body that came as a whole is read at once; of a stream the pieces are put
together. A raw JSON text stands as its tree. -/
namespace Tierflow
namespace Capture
namespace Replies
open Lines Text

inductive RelayFormat
  | openAI
  | claude
  | other
  deriving DecidableEq, Repr

/-! ## What bodies and chunks are read as -/

structure ContentPart where
  type : String
  text : String := ""
  thinking : String := ""
  toolUseId : String := ""
  content : Option Json := none
  id : String := ""
  name : String := ""
  input : Option Json := none

/-- The content of a message, read as a text or else as a list of parts. -/
inductive Content
  | absent
  | text (s : String)
  | parts (l : List ContentPart)
  | unreadable

structure OpenAIMessage where
  content : Content
  toolCalls : Option Json
  reasoningContent : String
  reasoning : String

structure OpenAIChoice where
  message : OpenAIMessage
  finishReason : String

structure OpenAINonStreamResp where
  choices : List OpenAIChoice
  completionTokens : ℤ

structure ClaudeNonStreamResp where
  content : List ContentPart
  stopReason : String
  outputTokens : ℤ

structure ToolDelta where
  index : Option ℤ
  id : String
  name : String
  arguments : String
  deriving DecidableEq, Repr

structure OpenAIDelta where
  content : String
  reasoningContent : String
  reasoning : String
  toolCalls : List ToolDelta
  deriving DecidableEq, Repr

structure OpenAIChunkChoice where
  delta : OpenAIDelta
  finishReason : Option String
  deriving DecidableEq, Repr

structure OpenAIChunk where
  choices : List OpenAIChunkChoice
  completionTokens : Option ℤ
  deriving DecidableEq, Repr

structure ContentBlock where
  type : String
  id : String
  name : String
  deriving DecidableEq, Repr

structure ClaudeDelta where
  type : String := ""
  text : String := ""
  thinking : String := ""
  partialJson : String := ""
  stopReason : String := ""
  deriving DecidableEq, Repr

structure ClaudeChunk where
  type : String
  index : ℤ := 0
  contentBlock : Option ContentBlock := none
  delta : ClaudeDelta := {}
  outputTokens : Option ℤ := none
  deriving DecidableEq, Repr

/-- How JSON texts are read. -/
structure Reader where
  openAIResponse : String → Option OpenAINonStreamResp
  claudeResponse : String → Option ClaudeNonStreamResp
  openAIChunk : String → Option OpenAIChunk
  claudeChunk : String → Option ClaudeChunk
  json : String → Option Json

/-- What is kept of a reply; no tool calls stand for the empty text. -/
structure ParsedMessage where
  role : String
  text : String
  toolCalls : Option Json
  reasoning : String
  finish : String
  tokens : ℤ
  truncated : Bool

/-! ## Parts -/

def mediaTypes : List String := ["image_url","image","input_audio","audio","inline_data","file_data","document"]

def extractText : Content → String × ℕ
  | .text s => (s,0)
  | .parts parts =>
    parts.foldl (fun r p =>
      if p.type = "text" then (below r.1 p.text,r.2)
      else if p.type∈mediaTypes then (r.1,r.2+1)
      else r) ("",0)
  | _ => ("",0)

def extractClaudeToolUse : Content → Option Json
  | .parts parts =>
    let uses := (parts.filter (fun p => p.type = "tool_use")).map (fun p =>
      Json.object [("id",.string p.id),("input",p.input.getD .null),("name",.string p.name)])
    if uses.length = 0 then none else some (.array uses)
  | _ => none

/-- Parts that were written and are read again. -/
def remarshal (parts : List ContentPart) : Content :=
  .parts (parts.map (fun p => { p with content := some (p.content.getD .null), input := some (p.input.getD .null) }))

def normalizeFinish (reason : String) : String :=
  if reason = "end_turn" ∨ reason = "stop_sequence" then "stop"
  else if reason = "max_tokens" then "length"
  else if reason = "tool_use" then "tool_calls"
  else reason

/-! ## Whole bodies -/

section
variable (R : Reader)

def isNull : Json → Bool
  | .null => true
  | _ => false

def parseNonStreamResponse (relayFormat : RelayFormat) (body : String) : Option ParsedMessage :=
  if relayFormat = .claude then
    match R.claudeResponse body with
    | none => none
    | some resp =>
      let sb := resp.content.foldl (fun sb p => if p.type = "text" then below sb p.text else sb) ""
      let think := resp.content.foldl (fun sb p => if p.type = "thinking" then sb++p.thinking else sb) ""
      let toolUse := extractClaudeToolUse (remarshal resp.content)
      if sb = "" ∧ toolUse.isNone ∧ think = "" then none
      else some ⟨"assistant",sb,toolUse,think,normalizeFinish resp.stopReason,resp.outputTokens,false⟩
  else
    match R.openAIResponse body with
    | none => none
    | some resp =>
      match resp.choices with
      | [] => none
      | c::_ =>
        let text := (extractText c.message.content).1
        let toolCalls := c.message.toolCalls.filter (fun j => !isNull j)
        let reasoning := if c.message.reasoningContent = "" then c.message.reasoning else c.message.reasoningContent
        if text = "" ∧ toolCalls.isNone ∧ reasoning = "" then none
        else some ⟨"assistant",text,toolCalls,reasoning,normalizeFinish c.finishReason,resp.completionTokens,false⟩

/-! ## Streams -/

structure ToolAcc where
  id : String := ""
  name : String := ""
  args : String := ""
  deriving DecidableEq, Repr

/-- The tools stand in the order in which their indices come up. -/
structure StreamAcc where
  text : String := ""
  reasoning : String := ""
  finish : String := ""
  tokens : ℤ := 0
  tools : List (ℤ × ToolAcc) := []
  terminated : Bool := false
  deriving DecidableEq, Repr

/-- The tool of an index, which is a new one where there is none yet, is changed. -/
def updateTool (tools : List (ℤ × ToolAcc)) (idx : ℤ) (change : ToolAcc → ToolAcc) : List (ℤ × ToolAcc) :=
  Gather.update {} tools idx change

def callJson (t : ToolAcc) : Json :=
  .object [("function",.object [("arguments",.string t.args),("name",.string t.name)]),("id",.string t.id),
    ("type",.string "function")]

def buildToolCalls (tools : List (ℤ × ToolAcc)) : Option Json :=
  let calls := (tools.filter (fun r => ¬(r.2.id = "" ∧ r.2.name = "" ∧ r.2.args = ""))).map (fun r => callJson r.2)
  if calls.length = 0 then none else some (.array calls)

namespace StreamAcc

def mergeTool (tc : ToolDelta) (t : ToolAcc) : ToolAcc where
  id := if tc.id≠"" then tc.id else t.id
  name := if tc.name≠"" then tc.name else t.name
  args := t.args++tc.arguments

def withFinish (a : StreamAcc) (reason : String) : StreamAcc :=
  if reason≠"" then { a with finish := normalizeFinish reason } else a

def withTokens (a : StreamAcc) (tokens : Option ℤ) : StreamAcc :=
  match tokens with
  | some n => if 0 < n then { a with tokens := n } else a
  | none => a

/-- A tool call without an index counts by its position. -/
def appendTools (tools : List (ℤ × ToolAcc)) (toolCalls : List ToolDelta) : List (ℤ × ToolAcc) :=
  toolCalls.zipIdx.foldl (fun tools r => updateTool tools (r.1.index.getD r.2) (mergeTool r.1)) tools

def appendPieces (a : StreamAcc) (delta : OpenAIDelta) : StreamAcc :=
  { a with
    text := a.text++delta.content
    reasoning := a.reasoning++delta.reasoningContent++delta.reasoning
    tools := appendTools a.tools delta.toolCalls }

def appendChoice (a : StreamAcc) (c : OpenAIChunkChoice) : StreamAcc :=
  (a.appendPieces c.delta).withFinish (c.finishReason.getD "")

def appendOpenAIChunk (a : StreamAcc) (chunk : OpenAIChunk) : StreamAcc :=
  (chunk.choices.foldl appendChoice a).withTokens chunk.completionTokens

def appendClaudeChunk (a : StreamAcc) (chunk : ClaudeChunk) : StreamAcc :=
  if chunk.type = "content_block_start" then
    match chunk.contentBlock with
    | some block =>
      if block.type = "tool_use" then
        { a with tools := updateTool a.tools chunk.index (fun t => { t with id := block.id, name := block.name }) }
      else a
    | none => a
  else if chunk.type = "content_block_delta" then
    if chunk.delta.type = "text_delta" then { a with text := a.text++chunk.delta.text }
    else if chunk.delta.type = "thinking_delta" then { a with reasoning := a.reasoning++chunk.delta.thinking }
    else if chunk.delta.type = "input_json_delta" then
      { a with tools := updateTool a.tools chunk.index (fun t => { t with args := t.args++chunk.delta.partialJson }) }
    else a
  else if chunk.type = "message_delta" then
    (a.withFinish chunk.delta.stopReason).withTokens chunk.outputTokens
  else if chunk.type = "message_stop" then { a with terminated := true }
  else a

/-- A chunk that cannot be read is left out. -/
def appendDelta (relayFormat : RelayFormat) (a : StreamAcc) (payload : String) : StreamAcc :=
  if relayFormat = .claude then ((R.claudeChunk payload).map a.appendClaudeChunk).getD a
  else ((R.openAIChunk payload).map a.appendOpenAIChunk).getD a

def readLine (relayFormat : RelayFormat) (a : StreamAcc) (line : String) : StreamAcc :=
  match cutPrefix (trimSpace line) "data:" with
  | none => a
  | some rest =>
    let payload := trimSpace rest
    if payload = "" then a
    else if payload = "[DONE]" then { a with terminated := true }
    else appendDelta R relayFormat a payload

end StreamAcc

def parseStreamResponse (relayFormat : RelayFormat) (body : String) : Option ParsedMessage :=
  let acc := (split body '\n').foldl (StreamAcc.readLine R relayFormat) {}
  let toolCalls := buildToolCalls acc.tools
  if acc.text = "" ∧ acc.reasoning = "" ∧ acc.finish = "" ∧ toolCalls.isNone then none
  else some ⟨"assistant",acc.text,toolCalls,acc.reasoning,acc.finish,acc.tokens,!acc.terminated⟩

/-- The characters that lie within so many bytes. -/
def takeBytes : ℕ → List Char → List Char
  | _,[] => []
  | n,c::l => if c.utf8Size ≤ n then c::takeBytes (n-c.utf8Size) l else []

def looksLikeSSE (body : String) : Bool := contains (String.ofList (takeBytes 256 body.toList)) "data:"

def parseResponseMessage (relayFormat : RelayFormat) (body : String) (isStream : Bool) : Option ParsedMessage :=
  if body = "" then none
  else if isStream || looksLikeSSE body then parseStreamResponse R relayFormat body
  else parseNonStreamResponse R relayFormat body

end

end Replies
end Capture
end Tierflow
