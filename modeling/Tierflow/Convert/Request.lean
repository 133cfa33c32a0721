import Tierflow.Foundation.Segments

/-! A Claude request turned into an OpenAI request. A turn becomes a tool message for every tool result in it and
one message for the rest, which holds either tool calls or text and images. -/
namespace Tierflow
namespace Convert
namespace Request

/-! ## Requests -/

/-- What a field of any type holds, as far as it can be read as a string or as blocks. -/
inductive Content (M : Type*)
  | null
  | string (s : String)
  | blocks (l : List M)
  | malformed
  deriving DecidableEq, Repr

structure ClaudeMessageSource (J : Type*) where
  mediaType : String
  data : J
  url : String
  deriving DecidableEq, Repr

structure ClaudeMediaMessage (J : Type*) where
  type : String
  text : Option String
  source : Option (ClaudeMessageSource J)
  cacheControl : Option J
  id : String
  name : String
  input : J
  content : Content J
  toolUseId : String
  deriving DecidableEq, Repr

structure ClaudeMessage (J : Type*) where
  role : String
  content : Content (ClaudeMediaMessage J)
  deriving DecidableEq, Repr

structure ClaudeTool (J : Type*) where
  name : String
  description : String
  inputSchema : J
  deriving DecidableEq, Repr

structure Thinking where
  type : String
  budgetTokens : Option ℤ
  deriving DecidableEq, Repr

structure ClaudeRequest (J : Type*) where
  model : String
  system : Content (ClaudeMediaMessage J)
  messages : List (ClaudeMessage J)
  maxTokens : Option ℕ
  stopSequences : List String
  temperature : Option J
  topP : Option J
  topK : Option ℤ
  stream : Option Bool
  tools : Content (ClaudeTool J)
  thinking : Option Thinking
  efforts : String
  deriving DecidableEq, Repr

structure MediaContent (J : Type*) where
  type : String
  text : String
  imageUrl : Option String
  cacheControl : Option J
  deriving DecidableEq, Repr

structure FunctionRequest (J : Type*) where
  description : String
  name : String
  parameters : Option J
  arguments : String
  deriving DecidableEq, Repr

structure ToolCallRequest (J : Type*) where
  id : String
  type : String
  function : FunctionRequest J
  deriving DecidableEq, Repr

inductive MessageContent (J : Type*)
  | null
  | string (s : String)
  | media (l : List (MediaContent J))
  deriving DecidableEq, Repr

structure Message (J : Type*) where
  role : String
  content : MessageContent J
  name : Option String
  toolCalls : List (ToolCallRequest J)
  toolCallId : String
  deriving DecidableEq, Repr

inductive Stop
  | none
  | one (s : String)
  | many (l : List String)
  deriving DecidableEq, Repr

structure RequestReasoning where
  enabled : Bool
  maxTokens : ℤ
  deriving DecidableEq, Repr

structure OpenAIRequest (J : Type*) where
  model : String
  messages : List (Message J)
  maxTokens : Option ℕ
  temperature : Option J
  topP : Option J
  topK : Option ℤ
  stream : Option Bool
  stop : Stop
  tools : List (ToolCallRequest J)
  verbosity : Option String
  reasoning : Option RequestReasoning
  deriving DecidableEq, Repr

/-- What is known of the relay of the request. -/
structure RelayInfo where
  isOpenRouter : Bool
  originModelName : String
  upstreamModelName : String
  deriving DecidableEq, Repr

/-- How values of any type are written: as JSON, blocks as a JSON array, and with the verb `%s`. -/
structure Encoding (J : Type*) where
  toJSONString : J → String
  marshal : List J → String
  sprint : J → String

inductive Failure
  | parse
  | nilSource
  deriving DecidableEq, Repr

/-! ## Reading contents -/

section Parse
variable {M : Type*}

def Content.isNil : Content M → Bool
  | null => true
  | _ => false

def Content.isString : Content M → Bool
  | string _ => true
  | _ => false

def Content.getString : Content M → String
  | string s => s
  | _ => ""

/-- The blocks of a content; null has none. -/
def Content.parse : Content M → Except Failure (List M)
  | null => .ok []
  | blocks l => .ok l
  | _ => .error .parse

/-- The blocks, with errors ignored. -/
def Content.parseOrNil (c : Content M) : List M :=
  match c.parse with
  | .ok l => l
  | .error _ => []

end Parse

variable {J : Type*} (enc : Encoding J)

def ClaudeMediaMessage.getText (b : ClaudeMediaMessage J) : String := b.text.getD ""

def Thinking.getBudgetTokens (t : Thinking) : ℤ := t.budgetTokens.getD 0

def ClaudeRequest.searchToolNameByToolCallId (req : ClaudeRequest J) (toolCallId : String) : String :=
  ((req.messages.flatMap (fun m => m.content.parseOrNil)).find? (fun b => b.id = toolCallId)).elim ""
    (fun b => b.name)

/-- The content as media; a string is one text. -/
def Message.parseContent (m : Message J) : List (MediaContent J) :=
  match m.content with
  | .null => []
  | .string s => [⟨"text",s,none,none⟩]
  | .media l => l

/-! ## Converting messages -/

def ClaudeMessageSource.dataUrl (s : ClaudeMessageSource J) : String :=
  "data:"++s.mediaType++";base64,"++enc.sprint s.data

/-- The content of a tool message: a string, or the blocks as JSON. -/
def ClaudeMediaMessage.resultContent (b : ClaudeMediaMessage J) : String :=
  match b.content with
  | .string s => s
  | .blocks l => enc.marshal l
  | .null | .malformed => "null"

def ClaudeMediaMessage.toolName (b : ClaudeMediaMessage J) (req : ClaudeRequest J) : String :=
  if b.name = "" then req.searchToolNameByToolCallId b.toolUseId else b.name

/-- What the blocks of a message have become so far; tool results are already among the messages. -/
structure Parts (J : Type*) where
  messages : List (Message J)
  toolCalls : List (ToolCallRequest J)
  mediaMessages : List (MediaContent J)

def convertBlock (req : ClaudeRequest J) (p : Parts J) (b : ClaudeMediaMessage J) : Except Failure (Parts J) :=
  if b.type = "text" ∨ b.type = "input_text" then
    .ok { p with mediaMessages := p.mediaMessages++[⟨"text",b.getText,none,b.cacheControl⟩] }
  else if b.type = "image" then
    match b.source with
    | none => .error .nilSource
    | some s => .ok { p with mediaMessages := p.mediaMessages++[⟨"image_url","",some (s.dataUrl enc),none⟩] }
  else if b.type = "tool_use" then
    .ok { p with toolCalls := p.toolCalls++[⟨b.id,"function",⟨"",b.name,none,enc.toJSONString b.input⟩⟩] }
  else if b.type = "tool_result" then
    .ok { p with messages := p.messages++
      [⟨"tool",.string (b.resultContent enc),some (b.toolName req),[],b.toolUseId⟩] }
  else .ok p

/-- Media go into the message only when it makes no tool calls. -/
def Parts.message (p : Parts J) (role : String) : Message J where
  role := role
  content := if p.mediaMessages≠[] ∧ p.toolCalls = [] then .media p.mediaMessages else .null
  name := none
  toolCalls := p.toolCalls
  toolCallId := ""

def appendMessage (out : List (Message J)) (m : Message J) : List (Message J) :=
  if m.parseContent≠[] ∨ m.toolCalls≠[] then out++[m] else out

def convertMessage (req : ClaudeRequest J) (out : List (Message J)) (m : ClaudeMessage J) :
    Except Failure (List (Message J)) :=
  if m.content.isString then .ok (appendMessage out ⟨m.role,.string m.content.getString,none,[],""⟩)
  else do
    let contents ← m.content.parse
    let p ← contents.foldlM (convertBlock enc req) ⟨out,[],[]⟩
    return appendMessage p.messages (p.message m.role)

/-! ## Converting the rest -/

def systemMessage (content : MessageContent J) : Message J := ⟨"system",content,none,[],""⟩

/-- Blocks of the system prompt are joined, but for Claude behind OpenRouter. -/
def convertSystem (req : ClaudeRequest J) (info : RelayInfo) : List (Message J) :=
  if req.system.isNil then []
  else if req.system.isString ∧ req.system.getString≠"" then [systemMessage (.string req.system.getString)]
  else
    let systems := req.system.parseOrNil
    if systems = [] then []
    else if info.isOpenRouter ∧ info.upstreamModelName.startsWith "anthropic/claude" then
      [systemMessage (.media (systems.map (fun b => ⟨"text",b.getText,none,b.cacheControl⟩)))]
    else [systemMessage (.string (systems.foldl (fun s b => s++b.getText) ""))]

def convertStop (stopSequences : List String) : Stop :=
  match stopSequences with
  | [] => .none
  | [s] => .one s
  | l => .many l

def convertTool (t : ClaudeTool J) : ToolCallRequest J :=
  ⟨"","function",⟨t.description,t.name,some t.inputSchema,""⟩⟩

def convertReasoning (t : Thinking) : RequestReasoning :=
  if t.type = "enabled" then ⟨true,t.getBudgetTokens⟩
  else if t.type = "adaptive" then ⟨true,0⟩
  else ⟨false,0⟩

def convertModel (model : String) (info : RelayInfo) : String :=
  if !info.isOpenRouter && info.originModelName.endsWith "-thinking" && !model.endsWith "-thinking" then
    model++"-thinking"
  else model

def claudeToOpenAIRequest (req : ClaudeRequest J) (info : RelayInfo) : Except Failure (OpenAIRequest J) := do
  let messages ← req.messages.foldlM (convertMessage enc req) (convertSystem req info)
  return {
    model := convertModel req.model info
    messages := messages
    maxTokens := req.maxTokens
    temperature := req.temperature
    topP := req.topP
    topK := req.topK
    stream := req.stream
    stop := convertStop req.stopSequences
    tools := req.tools.parseOrNil.map convertTool
    verbosity := if info.isOpenRouter ∧ req.efforts≠"" then some req.efforts else none
    reasoning := if info.isOpenRouter then req.thinking.map convertReasoning else none }

end Request
end Convert
end Tierflow
