import Tierflow.Convert.GeminiRequest
import Tierflow.Convert.Message
import Tierflow.Foundation.Lines

/-! A Gemini answer of one candidate turned into a chat message, in one piece or response by response of a
stream; and the message that a client puts together from the chunks of the stream. -/
namespace Tierflow
namespace Convert
namespace GeminiReply
open Gemini (InlineData FunctionCall)
open Lines

/-! ## Answers -/

structure ExecutableCode where
  language : String
  code : String
  deriving DecidableEq, Repr

structure ReplyPart (J : Type*) where
  text : String := ""
  thought : Bool := false
  inlineData : Option InlineData := none
  functionCall : Option (FunctionCall J) := none
  executableCode : Option ExecutableCode := none
  /-- The output of a code execution result. -/
  codeExecutionResult : Option String := none
  deriving DecidableEq, Repr

structure Candidate (J : Type*) where
  parts : List (ReplyPart J)
  finishReason : Option String

/-- What a part counts as; both converters test for the kinds in this order. -/
inductive Piece (J : Type*)
  | inlineData (data : InlineData)
  | functionCall (call : FunctionCall J)
  | thought (text : String)
  | executableCode (code : ExecutableCode)
  | codeExecutionResult (output : String)
  | text (text : String)
  deriving DecidableEq, Repr

section Kinds
variable {J : Type*}

def ReplyPart.piece (p : ReplyPart J) : Piece J :=
  match p.inlineData,p.functionCall with
  | some data,_ => .inlineData data
  | none,some call => .functionCall call
  | none,none =>
    if p.thought then .thought p.text
    else match p.executableCode,p.codeExecutionResult with
      | some code,_ => .executableCode code
      | none,some output => .codeExecutionResult output
      | none,none => .text p.text

end Kinds

def isImage (d : InlineData) : Bool := Text.hasPrefix d.mimeType "image"

def imageLink (d : InlineData) : String := "![image](data:"++d.mimeType++";base64,"++d.data++")"

def mediaLink (d : InlineData) : String := "[media](data:"++d.mimeType++";base64,"++d.data++")"

def ExecutableCode.block (e : ExecutableCode) : String := "```"++e.language++"\n"++e.code++"\n```"

def outputBlock (output : String) : String := "```output\n"++output++"\n```"

def finishReasonStop : String := "stop"
def finishReasonToolCalls : String := "tool_calls"
def finishReasonLength : String := "length"
def finishReasonContentFilter : String := "content_filter"

/-- The OpenAI finish reason; all other reasons, known or not, count as filtered content. -/
def mapFinishReason (reason : String) : String :=
  if reason = "STOP" then finishReasonStop
  else if reason = "MAX_TOKENS" then finishReasonLength
  else finishReasonContentFilter

section Converters
variable {J : Type*} (marshal : J → String) (uuid : ℕ → String)

/-- The call that receives the `k`-th generated id; arguments that were read from JSON have a text. -/
def getResponseToolCall (k : ℕ) (call : FunctionCall J) : ToolCall :=
  ⟨none,"call_"++uuid k,call.functionName,marshal call.arguments⟩

/-! ## In one piece -/

structure WholeChoice where
  content : Builder
  reasoningContent : Option String
  toolCalls : List ToolCall
  finishReason : String

def WholeChoice.write (s : WholeChoice) (piece : String) : WholeChoice :=
  { s with content := s.content.write piece }

def WholeChoice.addPiece (s : WholeChoice) : Piece J → WholeChoice
  | .inlineData d => s.write (if isImage d then imageLink d else mediaLink d)
  | .functionCall call => { s with
      finishReason := finishReasonToolCalls
      toolCalls := s.toolCalls++[getResponseToolCall marshal uuid s.toolCalls.length call] }
  | .thought text => { s with reasoningContent := some text }
  | .executableCode e => s.write e.block
  | .codeExecutionResult output => s.write (outputBlock output)
  | .text text => if text≠"\n" then s.write text else s

def toolOfCall (t : ToolCall) : Tool := ⟨t.id,t.name,t.arguments⟩

def responseGeminiChat2OpenAI (candidate : Candidate J) : OpenAIChoice :=
  let s := (candidate.parts.map ReplyPart.piece).foldl (WholeChoice.addPiece marshal uuid)
    ⟨.empty,none,[],finishReasonStop⟩
  let finishReason := (candidate.finishReason.map mapFinishReason).getD s.finishReason
  ⟨⟨s.content.content,s.reasoningContent.getD "",s.toolCalls.map toolOfCall⟩,
    if s.toolCalls≠[] then finishReasonToolCalls else finishReason⟩

/-! ## Response by response -/

structure DeltaChoice where
  content : Builder
  toolCalls : List ToolCall
  isTools : Bool
  isThought : Bool

def DeltaChoice.write (s : DeltaChoice) (piece : String) : DeltaChoice :=
  { s with content := s.content.write piece }

/-- `used` ids were generated before this response. -/
def DeltaChoice.addPiece (used : ℕ) (s : DeltaChoice) : Piece J → DeltaChoice
  | .inlineData d => if isImage d then s.write (imageLink d) else s
  | .functionCall call => { s with
      isTools := true
      toolCalls := s.toolCalls++
        [{ getResponseToolCall marshal uuid (used+s.toolCalls.length) call with index := some s.toolCalls.length }] }
  | .thought text => { s.write text with isThought := true }
  | .executableCode e => s.write (e.block++"\n")
  | .codeExecutionResult output => s.write (outputBlock output++"\n")
  | .text text => if text≠"\n" then s.write text else s

def streamResponseGeminiChat2OpenAI (used : ℕ) (candidate : Candidate J) : Choice × Bool :=
  let isStop : Bool := candidate.finishReason = some "STOP"
  let reason := if isStop then none else candidate.finishReason.map mapFinishReason
  let s := (candidate.parts.map ReplyPart.piece).foldl (DeltaChoice.addPiece marshal uuid used) ⟨.empty,[],false,false⟩
  let content := s.content.content
  (⟨⟨if s.isThought then none else some content,if s.isThought then some content else none,none,s.toolCalls⟩,
    if s.isTools then some finishReasonToolCalls else reason⟩,isStop)

/-! ## The handler -/

structure HandlerState where
  finishReason : String
  toolCallIndex : List (String × ℤ)
  nextToolCallIndex : ℤ
  /-- The ids that were generated. -/
  used : ℕ
  sent : List StreamResponse

def HandlerState.init : HandlerState := ⟨finishReasonStop,[],0,0,[]⟩

/-- Calls are numbered over the whole stream, by their ids. -/
def assignIndexes : List (String × ℤ) → ℤ → List ToolCall → List ToolCall × List (String × ℤ) × ℤ
  | m,next,[] => ([],m,next)
  | m,next,t::ts =>
    if t.id = "" then (t::(assignIndexes m next ts).1,(assignIndexes m next ts).2)
    else match m.lookup t.id with
      | some idx => ({ t with index := some idx }::(assignIndexes m next ts).1,(assignIndexes m next ts).2)
      | none => ({ t with index := some next }::(assignIndexes ((t.id,next)::m) (next+1) ts).1,
          (assignIndexes ((t.id,next)::m) (next+1) ts).2)

variable (id model : String)

def chunk (choice : Choice) : StreamResponse := ⟨id,model,[choice],none⟩

/-- `GenerateStartEmptyResponse`, with the calls of the first response without their arguments. -/
def startEmptyResponse (toolCalls : List ToolCall) : StreamResponse :=
  chunk id model ⟨⟨some "",none,none,toolCalls.map (fun t => { t with arguments := "" })⟩,none⟩

def generateStopResponse (finishReason : String) : StreamResponse :=
  chunk id model ⟨⟨none,none,none,[]⟩,some finishReason⟩

/-- `ClearToolCalls`: the pieces that continue the calls of the first chunk. -/
def clearToolCalls (choice : Choice) : Choice :=
  { choice with
    delta := { choice.delta with toolCalls := choice.delta.toolCalls.map (fun t => { t with id := "", name := "" }) } }

/-- The chunks for a response, the first of which announces its calls in a chunk of its own. -/
def firstChunks (choice : Choice) : List StreamResponse :=
  if choice.delta.toolCalls≠[] then
    [startEmptyResponse id model choice.delta.toolCalls,
      chunk id model (if choice.finished then { clearToolCalls choice with finishReason := none }
        else clearToolCalls choice)]
  else [startEmptyResponse id model [],chunk id model choice]

/-- What the handler does with a response, for a client of the OpenAI format. -/
def HandlerState.respond (s : HandlerState) (candidate : Candidate J) : HandlerState :=
  let r := streamResponseGeminiChat2OpenAI marshal uuid s.used candidate
  let a := assignIndexes s.toolCallIndex s.nextToolCallIndex r.1.delta.toolCalls
  let choice : Choice := { r.1 with delta := { r.1.delta with toolCalls := a.1 } }
  let finishReason := if choice.delta.toolCalls≠[] then finishReasonToolCalls else s.finishReason
  { finishReason := finishReason
    toolCallIndex := a.2.1
    nextToolCallIndex := a.2.2
    used := s.used+r.1.delta.toolCalls.length
    sent := s.sent++(if s.sent=[] then firstChunks id model choice else [chunk id model choice])++
      if r.2 then [generateStopResponse id model finishReason] else [] }

/-- All chunks of a stream, at the end the usage if the client wants it. -/
def geminiChatStreamHandler (usage : Option Usage) (responses : List (Candidate J)) : List StreamResponse :=
  (responses.foldl (HandlerState.respond marshal uuid id model) .init).sent++
    (usage.map (fun u => (⟨id,model,[],some u⟩ : StreamResponse))).toList

end Converters

/-! ## The client -/

/-- A piece with the next number begins a call, any other continues the call with its number. -/
def receiveCall (tools : List Tool) (t : ToolCall) : Option (List Tool) :=
  let i := t.index.getD 0
  if i = tools.length then some (tools++[toolOfCall t])
  else if 0 ≤ i ∧ i < tools.length then
    some (tools.modify i.toNat (fun x =>
      ⟨if t.id≠"" then t.id else x.id,if t.name≠"" then t.name else x.name,x.arguments++t.arguments⟩))
  else none

def reasonOf (r : StreamResponse) : Option String := r.choices.head?.bind Choice.finishReason

/-- The message so far, and the last finish reason. -/
def receive (s : Message × Option String) (r : StreamResponse) : Option (Message × Option String) :=
  (r.delta.toolCalls.foldlM receiveCall s.1.tools).map (fun tools =>
    (⟨s.1.text++r.delta.getContentString,s.1.reasoning++r.delta.getReasoningContent,tools⟩,(reasonOf r).or s.2))

def received (chunks : List StreamResponse) : Option (Message × Option String) := chunks.foldlM receive (.empty,none)

/-- The pieces that begin a call, of which only these have an id. -/
def openings (chunks : List StreamResponse) : List ToolCall :=
  (chunks.flatMap (fun r => r.delta.toolCalls)).filter (fun t => t.id≠"")

end GeminiReply
end Convert
end Tierflow
