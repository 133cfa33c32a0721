import Tierflow.Convert.Message
import Tierflow.Foundation.Json

/-! A Claude response turned into an OpenAI message, event by event and in one piece. -/
namespace Tierflow
namespace Convert
namespace FromClaude

/-! ## Responses -/

structure ClaudeMediaMessage (J : Type*) where
  type : String
  text : Option String
  model : String
  stopReason : Option String
  partialJson : Option String
  thinking : Option String
  id : String
  name : String
  input : J

structure ClaudeResponse (J : Type*) where
  id : String
  type : String
  content : List (ClaudeMediaMessage J)
  stopReason : String
  model : String
  index : Option ℤ
  contentBlock : Option (ClaudeMediaMessage J)
  delta : Option (ClaudeMediaMessage J)
  message : Option (ClaudeMediaMessage J)

structure ToolCallDelta where
  index : ℤ
  id : String
  name : String
  arguments : String
  deriving DecidableEq, Repr

structure Chunk where
  id : String
  model : String
  role : String
  content : Option String
  reasoningContent : Option String
  toolCalls : List ToolCallDelta
  finishReason : Option String
  deriving DecidableEq, Repr

structure OpenAITextResponse where
  id : String
  model : String
  content : String
  reasoningContent : Option String
  toolCalls : List Tool
  finishReason : String
  deriving DecidableEq, Repr

/-- A nil pointer is followed. -/
inductive Failure
  | nilPointer
  deriving DecidableEq, Repr

def claudeStopReasonToOpenAIFinishReason (stopReason : String) : String :=
  match toLower stopReason with
  | "stop_sequence" => "stop"
  | "end_turn" => "stop"
  | "max_tokens" => "length"
  | "tool_use" => "tool_calls"
  | "refusal" => "content_filter"
  | _ => stopReason

section
variable {J : Type*}

def ClaudeMediaMessage.getText (m : ClaudeMediaMessage J) : String := m.text.getD ""

/-! ## Event by event -/

def Chunk.ofModel (model : String) : Chunk := ⟨"",model,"",none,none,[],none⟩

/-- Tool calls take the place of text. -/
def Chunk.withTools (c : Chunk) (tools : List ToolCallDelta) : Chunk :=
  if tools = [] then c else { c with content := none, toolCalls := tools }

def startChunk (r : ClaudeResponse J) (c : Chunk) : Chunk :=
  match r.message with
  | none => { c with content := some "", role := "assistant" }
  | some m => { c with id := m.id, model := m.model, content := some "", role := "assistant" }

def blockStartChunk (fcIdx : ℤ) (c : Chunk) (b : ClaudeMediaMessage J) : Chunk :=
  { c with content := if b.type = "text" then b.text.or c.content else c.content }.withTools
    (if b.type = "tool_use" then [⟨fcIdx,b.id,b.name,""⟩] else [])

def blockDeltaChunk (fcIdx : ℤ) (c : Chunk) (d : ClaudeMediaMessage J) : Except Failure Chunk :=
  if d.type = "input_json_delta" then
    match d.partialJson with
    | none => .error .nilPointer
    | some s => .ok ({ c with content := d.text }.withTools [⟨fcIdx,"","",s⟩])
  else if d.type = "signature_delta" then .ok { c with content := d.text, reasoningContent := some "\n" }
  else if d.type = "thinking_delta" then .ok { c with content := d.text, reasoningContent := d.thinking }
  else .ok { c with content := d.text }

def messageDeltaChunk (c : Chunk) (d : ClaudeMediaMessage J) : Chunk :=
  match d.stopReason with
  | none => c
  | some reason =>
    let finishReason := claudeStopReasonToOpenAIFinishReason reason
    if finishReason = "null" then c else { c with finishReason := some finishReason }

def streamResponseClaude2OpenAI (r : ClaudeResponse J) : Except Failure (Option Chunk) :=
  let c := Chunk.ofModel r.model
  let fcIdx := r.index.getD 0
  if r.type = "message_start" then .ok (some (startChunk r c))
  else if r.type = "content_block_start" then .ok (r.contentBlock.map (blockStartChunk fcIdx c))
  else if r.type = "content_block_delta" then
    match r.delta with
    | none => .ok (some c)
    | some d => (blockDeltaChunk fcIdx c d).map some
  else if r.type = "message_delta" then
    match r.delta with
    | none => .ok (some c)
    | some d => .ok (some (messageDeltaChunk c d))
  else .ok none

/-! ## In one piece -/

/-- What the loop over the blocks has found. -/
structure Found where
  responseText : String
  thinkingContent : String
  tools : List Tool

variable (codec : JsonCodec J)

def visitBlock (f : Found) (b : ClaudeMediaMessage J) : Found :=
  if b.type = "tool_use" then { f with tools := f.tools++[⟨b.id,b.name,codec.marshal b.input⟩] }
  else if b.type = "thinking" then { f with thinkingContent := b.thinking.getD f.thinkingContent }
  else if b.type = "text" then { f with responseText := b.getText }
  else f

/-- The thoughts of the first block are shown if no later ones are found. -/
def responseClaude2OpenAI (r : ClaudeResponse J) : OpenAITextResponse :=
  let responseText := (r.content.head?.map ClaudeMediaMessage.getText).getD ""
  let responseThinking := (r.content.head?.bind ClaudeMediaMessage.thinking).getD ""
  let f := r.content.foldl (visitBlock codec) ⟨responseText,"",[]⟩
  { id := r.id
    model := r.model
    content := f.responseText
    reasoningContent :=
      if f.thinkingContent≠"" then some f.thinkingContent
      else if responseThinking≠"" then some responseThinking else none
    toolCalls := f.tools
    finishReason := claudeStopReasonToOpenAIFinishReason r.stopReason }

def OpenAITextResponse.message (r : OpenAITextResponse) : Message :=
  ⟨r.content,r.reasoningContent.getD "",r.toolCalls⟩

/-! ## Putting chunks together -/

/-- A message with the indices of its calls. -/
structure Assembled where
  text : String
  reasoning : String
  calls : List (ℤ × Tool)
  deriving DecidableEq, Repr

def Assembled.empty : Assembled := ⟨"","",[]⟩

/-- The first piece with an index begins a call, every other one goes on with it. -/
def addCall (calls : List (ℤ × Tool)) (d : ToolCallDelta) : List (ℤ × Tool) :=
  if d.index∈calls.map Prod.fst then
    calls.map (fun p => if p.1 = d.index then (p.1,p.2.extend d.arguments) else p)
  else calls++[(d.index,⟨d.id,d.name,d.arguments⟩)]

def Assembled.add (a : Assembled) (c : Chunk) : Assembled where
  text := a.text++c.content.getD ""
  reasoning := a.reasoning++c.reasoningContent.getD ""
  calls := c.toolCalls.foldl addCall a.calls

def Assembled.message (a : Assembled) : Message := ⟨a.text,a.reasoning,a.calls.map Prod.snd⟩

def receive (a : Assembled) (r : ClaudeResponse J) : Except Failure Assembled :=
  (streamResponseClaude2OpenAI r).map (fun o => o.elim a a.add)

/-- The message that the chunks of the events make up. -/
def assembleStream (events : List (ClaudeResponse J)) : Except Failure Message :=
  (events.foldlM receive Assembled.empty).map Assembled.message

end

end FromClaude
end Convert
end Tierflow
